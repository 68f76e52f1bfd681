import TableFile.Text.Pieces

namespace TableFile.Definition

structure Nesting where
  depth : Nat
  quote : Option Char
deriving DecidableEq

namespace Nesting

def outside : Nesting := ⟨0, none⟩

/-- A parenthesis that closes nothing changes nothing, and within quotes only their end counts. -/
def step (s : Nesting) (c : Char) : Nesting :=
  match s.quote with
  | some mark => if c = mark then ⟨s.depth, none⟩ else s
  | none =>
    if c = '\x27' ∨ c = '"' ∨ c = '\x60' then ⟨s.depth, some c⟩
    else if c = '[' then ⟨s.depth, some ']'⟩
    else if c = '(' then ⟨s.depth + 1, none⟩
    else if c = ')' then ⟨s.depth - 1, none⟩
    else s

end Nesting

def splitFrom (s : Nesting) : List Char → List (List Char)
  | [] => [[]]
  | c :: text =>
    if c = ',' ∧ s = .outside then [] :: splitFrom .outside text
    else Text.extendFirst c (splitFrom (s.step c) text)

def splitItems (text : List Char) : List (List Char) :=
  splitFrom .outside text

/-- The text up to the parenthesis that closes one opened before it, with `depth` more open. Quotes
do not count here. -/
def parenthesizedFrom? (depth : Nat) : List Char → Option (List Char)
  | [] => none
  | c :: text =>
    if c = '(' then (parenthesizedFrom? (depth + 1) text).map (c :: ·)
    else if c = ')' then
      match depth with
      | 0 => some []
      | depth + 1 => (parenthesizedFrom? depth text).map (c :: ·)
    else (parenthesizedFrom? depth text).map (c :: ·)

def parenthesized? (text : List Char) : Option (List Char) :=
  match text.dropWhile (· ≠ '(') with
  | [] => none
  | _ :: inner => parenthesizedFrom? 0 inner

end TableFile.Definition
