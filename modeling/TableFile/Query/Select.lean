import TableFile.Query.Predicate
import TableFile.Text.Keyword

namespace TableFile

structure Query where
  table : String
  columns : List String
  predicate : Option Predicate
deriving DecidableEq

namespace Query

open Text

def countAll : String := "count(*)"

def countsRows (query : Query) : Bool :=
  query.columns = [countAll]

def columnName (text : List Char) : String :=
  if sameLetters (text.filter (!isBlank ·)) countAll.toList then countAll
  else .ofList (unquote text)

def columnNames (list : List Char) : List String :=
  (((splitWhere (· = ',') list).map trim).filter (· ≠ [])).map columnName

def statement (sql : List Char) : List Char :=
  trimEnd ((trim sql).reverse.dropWhile (· = ';')).reverse

def source (text : List Char) : Except Error (List Char × Option Predicate) :=
  match cutAtWord? "where".toList true text with
  | some (table, clause) => do return (table, some (← Predicate.ofText clause))
  | none => .ok (text, none)

def parse (sql : String) : Except Error Query := do
  let text := statement sql.toList
  let refuse (fault : String → QueryFault) : Except Error Query :=
    .error (.badQuery (fault (.ofList text)))
  let some text' := afterWholeWord? "select".toList text | refuse .notSelect
  let some (list, rest) := cutAtWord? "from".toList true text' | refuse .noFrom
  let columns := columnNames list
  if columns = [] then refuse .noColumns
  else
    let (table, predicate) ← source rest
    let table := unquote (trim table)
    if table = [] ∨ table.any isBlank then refuse .notOneTable
    else return { table := .ofList table, columns, predicate }

end Query

end TableFile
