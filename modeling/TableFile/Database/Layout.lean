import TableFile.Database.Basic
import TableFile.Page.Layout

namespace TableFile

def SchemaEntry.toValues (entry : SchemaEntry) : List Value :=
  [.text entry.kind, .text entry.name, .text entry.table,
    .integer (.ofNat entry.rootPage.toNat), (entry.sql.map .text).getD .null]

namespace Database

def magic : Bytes :=
  Text.toUtf8 "SQLite format 3\x00"

def rowCells (rows : List (Int64 × List Value)) : Option (List Cell) :=
  rows.mapM fun row ↦ (Record.encode? row.2).map (.tableLeaf row.1)

def tablePage? (pageSize : Nat) (number : UInt32) (rows : List (Int64 × List Value)) :
    Option Bytes := do
  Page.layout? pageSize number .tableLeaf 0 (← rowCells rows)

/-- The file whose schema table has the entries as its rows, numbered from one, and whose further
pages follow. -/
def layout? (pageSize : Nat) (entries : List SchemaEntry) (pages : List Bytes) :
    Option Bytes := do
  let rows := entries.mapIdx fun i entry ↦ (.ofNat (i + 1), entry.toValues)
  let first ← tablePage? pageSize 1 rows
  let front := magic ++ Bytes.ofNat 2 (if pageSize = 65536 then 1 else pageSize)
  return front ++ first.drop front.length ++ pages.flatten

end Database

end TableFile
