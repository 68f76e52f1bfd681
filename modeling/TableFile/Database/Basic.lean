import TableFile.Query.Answer

namespace TableFile

structure Database where
  file : Bytes
  pageSize : Nat
deriving DecidableEq

namespace Database

def pageSizes : List Nat :=
  [512, 1024, 2048, 4096, 8192, 16384, 32768, 65536]

/-- The size that two bytes of the file header state; 65536 does not fit into them and is stated
as 1. -/
def statedPageSize (header : Bytes) : Nat :=
  let stated := Bytes.bigEndian ((header.drop 16).take 2)
  if stated = 1 then 65536 else stated

def ofFile (file : Bytes) : Except Error Database :=
  let header := file.take Page.fileHeaderSize
  if header.length < Page.fileHeaderSize then
    .error (.cutShort 1 Page.fileHeaderSize header.length)
  else
    let pageSize := statedPageSize header
    if pageSize ∈ pageSizes then .ok ⟨file, pageSize⟩ else .error (.badPageSize pageSize)

def page (db : Database) (number : UInt32) : Except Error Page :=
  Page.ofFile db.file db.pageSize number

def firstPage (db : Database) : Except Error Page :=
  db.page 1

def entryCount (db : Database) : Except Error Nat := do
  return (← db.firstPage).header.cellCount.toNat

def entries (db : Database) : Except Error (List SchemaEntry) := do
  (← db.firstPage).schemaEntries

def tables (db : Database) : Except Error (List String) := do
  return ((← db.entries).filter (·.kind = "table")).map (·.table)

def schema (db : Database) (table : String) : Except Error Schema := do
  Schema.ofPage (← db.firstPage) table

def answer (db : Database) (query : Query) : Except Error Answer := do
  let schema ← db.schema query.table
  query.answer schema (← db.page schema.rootPage)

def answerText (db : Database) (sql : String) : Except Error Answer := do
  db.answer (← Query.parse sql)

end Database

end TableFile
