import TableFile.Definition.Nesting
import TableFile.Text.Identifier
import TableFile.Text.Keyword

namespace TableFile.Definition

open Text

/-- The name an item begins with, and the rest of the item. A quoted name ends at its closing mark,
any other at the first blank. -/
def cutName (item : List Char) : List Char × List Char :=
  match quotedName? item with
  | some (name, rest) => (name, trim rest)
  | none => (item.takeWhile (!isBlank ·), trim (item.dropWhile (!isBlank ·)))

def canonical (text : List Char) : List Char :=
  upper ([' '].intercalate (words text))

def constraintWords : List String :=
  ["CONSTRAINT", "CHECK", "UNIQUE", "FOREIGN"]

/-- A constraint begins with a word of its own, which an opening parenthesis may follow at once;
`PRIMARY` needs `KEY` behind it. -/
def isConstraint (item : List Char) : Bool :=
  match (words item).map upper with
  | [] => false
  | first :: others =>
    if first = "PRIMARY".toList then others.head?.any ("KEY".toList.isPrefixOf ·)
    else constraintWords.any fun word ↦
      first = word.toList || (word.toList ++ ['(']).isPrefixOf first

def primaryKey? (constraint : List Char) : Option (List (List Char)) := do
  let key ← fromWord? "PRIMARY".toList constraint
  if sameLetters (canonical (key.takeWhile (· ≠ '('))) "PRIMARY KEY".toList then
    let list ← parenthesized? key
    return (splitItems list).map fun item ↦ (cutName (trim item)).1
  else none

def declaresInteger (declared : List Char) : Bool :=
  (words declared).head?.any (sameLetters · "INTEGER".toList)

end TableFile.Definition
