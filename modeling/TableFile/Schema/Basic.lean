import TableFile.Definition.Columns
import TableFile.Definition.IndexColumn
import TableFile.Schema.Entry

namespace TableFile

structure Index where
  name : String
  column : String
  ordinal : Nat
  rootPage : UInt32
deriving DecidableEq

structure Schema where
  table : String
  columns : List Column
  rootPage : UInt32
  index : Option Index
deriving DecidableEq

namespace Schema

def column (schema : Schema) (name : String) : Except Error Column :=
  match schema.columns.find? fun column ↦ Text.sameName column.name name with
  | some column => .ok column
  | none => .error (.unknownColumn name schema.table)

def partition : List SchemaEntry → Except Error (List SchemaEntry × List SchemaEntry)
  | [] => .ok ([], [])
  | entry :: entries => do
    let kind ← ObjectKind.ofText entry.kind
    let (tables, indexes) ← partition entries
    return match kind with
      | .table => (entry :: tables, indexes)
      | .index => (tables, entry :: indexes)

/-- The first index that is on a plain column. An index without a definition is passed over, and so
is one whose leading key is an expression. -/
def findIndex (schema : Schema) : List SchemaEntry → Except Error (Option Index)
  | [] => .ok none
  | entry :: entries => do
    match ← entry.sql.elim (.ok none) Definition.indexColumn? with
    | none => findIndex schema entries
    | some name =>
      let column ← schema.column name
      return some ⟨entry.name, name, column.ordinal, entry.rootPage⟩

def ofEntries (entries : List SchemaEntry) (table : String) : Except Error Schema := do
  let (tables, indexes) ← partition (entries.filter fun entry ↦ Text.sameName entry.table table)
  match tables with
  | [] => throw (.unknownTable table)
  | entry :: _ =>
    match entry.sql with
    | none => throw (.badDefinition (.undefinedTable entry.name))
    | some sql =>
      let schema : Schema := ⟨entry.name, ← Definition.columns sql, entry.rootPage, none⟩
      return { schema with index := ← schema.findIndex indexes }

def ofPage (page : Page) (table : String) : Except Error Schema := do
  ofEntries (← page.schemaEntries) table

end Schema

end TableFile
