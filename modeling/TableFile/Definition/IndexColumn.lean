import TableFile.Definition.Item
import TableFile.Error
import TableFile.Text.Letter

namespace TableFile.Definition

open Text

def isPlainName (name : List Char) : Bool :=
  name.all fun c ↦ isLetterOrDigit c || c = '_' || c = '$'

def isOrdering (rest : List Char) : Bool :=
  (words rest).head?.all fun word ↦
    ["ASC", "DESC", "COLLATE"].any fun keyword ↦ sameLetters word keyword.toList

/-- The leading column of an index definition, or none where an expression leads. -/
def indexColumn? (sql : String) : Except Error (Option String) :=
  match parenthesized? sql.toList with
  | none => .error (.badDefinition (.noColumnList sql))
  | some list =>
    let first := trim ((splitItems list).headD [])
    let (name, rest) := cutName first
    if name = [] then .error (.badDefinition (.emptyColumnList sql))
    else if (startsQuoted first || isPlainName name) && isOrdering rest then
      .ok (some (.ofList name))
    else .ok none

end TableFile.Definition
