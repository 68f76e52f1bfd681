import TableFile.Error
import TableFile.Text.Blank

namespace TableFile.Query.Literal

open Text

/-- What a quoted text says, read on from behind its opening quote, and what follows it. A quote
inside is written twice. -/
def quoted? : List Char → Option (List Char × List Char)
  | [] => none
  | '\x27' :: '\x27' :: s => (quoted? s).map fun r ↦ ('\x27' :: r.1, r.2)
  | '\x27' :: s => some ([], s)
  | c :: s => (quoted? s).map fun r ↦ (c :: r.1, r.2)

def parse (s : List Char) : Except Error String :=
  match s with
  | '\x27' :: inner =>
    match quoted? inner with
    | none => .error (.badQuery (.unterminated (.ofList s)))
    | some (content, rest) =>
      let rest := trim rest
      if rest = [] then .ok (.ofList content)
      else .error (.badQuery (.afterLiteral (.ofList rest)))
  | _ =>
    if s = [] ∨ s.any isBlank ∨ '\x27' ∈ s then
      .error (.badQuery (.notOneLiteral (.ofList s)))
    else .ok (.ofList s)

end TableFile.Query.Literal
