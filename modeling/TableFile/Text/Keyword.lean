import TableFile.Text.Blank

namespace TableFile.Text

/-- Whether two texts differ in nothing but the case of ASCII letters. -/
def sameLetters (s t : List Char) : Bool :=
  s.map Char.toLower == t.map Char.toLower

def sameName (s t : String) : Bool :=
  sameLetters s.toList t.toList

/-- What is left of `s` behind `word`, if `s` starts with it in some case. -/
def afterWord? (word s : List Char) : Option (List Char) :=
  if sameLetters word (s.take word.length) then some (s.drop word.length) else none

def fromWord? (word : List Char) : List Char → Option (List Char)
  | [] => none
  | c :: s => if (afterWord? word (c :: s)).isSome then some (c :: s) else fromWord? word s

def afterWholeWord? (word s : List Char) : Option (List Char) :=
  (afterWord? word s).filter fun rest ↦ rest.head?.all isBlank

/-- The texts before and behind the first `word` in some case that stands by itself. `start` says
whether a word can start at the beginning. -/
def cutAtWord? (word : List Char) : (start : Bool) → List Char → Option (List Char × List Char)
  | _, [] => none
  | start, c :: s =>
    match if start then afterWholeWord? word (c :: s) else none with
    | some rest => some ([], rest)
    | none => (cutAtWord? word (isBlank c) s).map fun r ↦ (c :: r.1, r.2)

/-- A character in upper case, where that has an ASCII letter in it. All others stay, since they
cannot become part of a keyword. -/
def capitals (c : Char) : List Char :=
  if c.toNat < 128 then [c.toUpper]
  else
    match c with
    | 'ß' => ['S', 'S']
    | 'ı' => ['I']
    | 'ŉ' => ['ʼ', 'N']
    | 'ſ' => ['S']
    | 'ǰ' => ['J', '\u030C']
    | 'ẖ' => ['H', '\u0331']
    | 'ẗ' => ['T', '\u0308']
    | 'ẘ' => ['W', '\u030A']
    | 'ẙ' => ['Y', '\u030A']
    | 'ẚ' => ['A', 'ʾ']
    | 'ﬀ' => ['F', 'F']
    | 'ﬁ' => ['F', 'I']
    | 'ﬂ' => ['F', 'L']
    | 'ﬃ' => ['F', 'F', 'I']
    | 'ﬄ' => ['F', 'F', 'L']
    | 'ﬅ' => ['S', 'T']
    | 'ﬆ' => ['S', 'T']
    | c => [c]

def upper (s : List Char) : List Char :=
  s.flatMap capitals

def occursIn (part : List Char) : List Char → Bool
  | [] => part.isEmpty
  | c :: s => part.isPrefixOf (c :: s) || occursIn part s

end TableFile.Text
