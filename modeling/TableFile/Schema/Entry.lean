import TableFile.Page.Basic

namespace TableFile

inductive ObjectKind where
  | table
  | index
deriving DecidableEq

def ObjectKind.ofText (text : String) : Except Error ObjectKind :=
  if text = "table" then .ok table
  else if text = "index" then .ok index
  else .error (.unknownObjectKind text)

/-- One row of the schema table. `table` is the name of the table the object belongs to. -/
structure SchemaEntry where
  kind : String
  name : String
  table : String
  rootPage : UInt32
  sql : Option String
deriving DecidableEq

namespace SchemaEntry

def textAt (record : Record) (index : Nat) (field : SchemaField) : Except Error String :=
  let found := record.values[index]?
  match found.bind Value.text? with
  | some text => .ok text
  | none => .error (.badRecord (.notText field found))

def readRootPage (found : Option Value) : Except Error UInt32 :=
  match found.bind Value.integer? with
  | some n =>
    if 0 ≤ n.toInt ∧ n.toInt < 0x100000000 then .ok (.ofNat n.toInt.toNat)
    else .error (.badRecord (.rootPage found))
  | none => .error (.badRecord (.rootPage found))

/-- A missing definition, or one that is not text, is no definition. -/
def ofRecord (record : Record) : Except Error SchemaEntry := do
  let kind ← textAt record 0 .kind
  let name ← textAt record 1 .name
  let table ← textAt record 2 .table
  let rootPage ← readRootPage record.values[3]?
  return { kind, name, table, rootPage, sql := record.values[4]?.bind Value.text? }

def ofCell (cell : Cell) : Except Error SchemaEntry := do
  ofRecord (← Record.decode (cell.payload?.getD []))

end SchemaEntry

def schemaTable : String := "sqlite_schema"

def Page.schemaEntries (page : Page) : Except Error (List SchemaEntry) :=
  if page.kind = .tableLeaf then
    page.cells.mapM fun cell ↦ cell.bind SchemaEntry.ofCell
  else .error (.severalPages schemaTable page.number page.kind.tag)

end TableFile
