import TableFile.Query.Select
import TableFile.Schema.Basic

namespace TableFile

inductive Answer where
  | count (n : Nat)
  | rows (rows : List (List String))
deriving DecidableEq

namespace Query

/-- The value of a column in a row. Where the column stands for the row id, null or nothing at its
place means the row id; nothing at the place of any other column means null. -/
def valueAt (record : Record) (column : Column) (rowId : Int64) : Value :=
  match record.values[column.ordinal]? with
  | some .null | none => if column.isRowId then .integer rowId else .null
  | some value => value

def shownColumns (query : Query) (schema : Schema) : Except Error (List Column) :=
  if query.countsRows then .ok []
  else if query.columns = ["*"] then .ok schema.columns
  else query.columns.mapM schema.column

structure Filter where
  predicate : Predicate
  column : Column

def filter (query : Query) (schema : Schema) : Except Error (Option Filter) :=
  match query.predicate with
  | none => .ok none
  | some predicate => do return some ⟨predicate, ← schema.column predicate.column⟩

def keeps (filter : Option Filter) (record : Record) (rowId : Int64) : Except Error Bool :=
  match filter with
  | none => .ok true
  | some f => f.predicate.holds (valueAt record f.column rowId)

def row? (shown : List Column) (filter : Option Filter) (rowId : Int64) (payload : Bytes) :
    Except Error (Option (List String)) := do
  let record ← Record.decode payload
  if ← keeps filter record rowId then
    return some (shown.map fun column ↦ (valueAt record column rowId).display)
  else return none

def rows (shown : List Column) (filter : Option Filter) :
    List (Except Error Cell) → Except Error (List (List String))
  | [] => .ok []
  | .error e :: _ => .error e
  | .ok (.tableLeaf rowId payload) :: cells => do
    let first ← row? shown filter rowId payload
    let others ← rows shown filter cells
    return first.toList ++ others
  | .ok _ :: cells => rows shown filter cells

/-- The answer to a query about the table of the schema, whose rows are on the page. A count of all
rows does not look at them. -/
def answer (query : Query) (schema : Schema) (page : Page) : Except Error Answer := do
  if page.kind ≠ .tableLeaf then
    throw (.severalPages schema.table page.number page.kind.tag)
  if query.countsRows && query.predicate.isNone then
    return .count page.cellCount
  let shown ← query.shownColumns schema
  let filter ← query.filter schema
  let rows ← rows shown filter page.cells
  return if query.countsRows then .count rows.length else .rows rows

end Query

end TableFile
