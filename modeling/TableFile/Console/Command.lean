import TableFile.Database.Basic

namespace TableFile

def Error.chain : Error → List String
  | file fault => [(file fault).message, fault.message]
  | e => [e.message]

namespace Console

inductive Failure where
  | noArguments
  | noCommand
  | opening (path : String) (cause : Error)
  | unknownCommand (command : String)
  | notSelect (statement : String)
  | querying (sql : String) (cause : Error)
  | listing (cause : Error)
deriving DecidableEq

namespace Failure

def cause? : Failure → Option Error
  | opening _ cause | querying _ cause | listing cause => some cause
  | _ => none

def chain : Failure → List String
  | noArguments => ["Missing <database path> and <command>"]
  | noCommand => ["Missing <command>"]
  | opening path cause => s!"failed to open database {path}" :: cause.chain
  | unknownCommand command => [s!"Unknown command: {command}"]
  | notSelect statement => [s!"Unsupported SQL command: {statement}"]
  | querying sql cause => s!"query failed: {sql}" :: cause.chain
  | listing cause => cause.chain

def oneLine (failure : Failure) : String :=
  ": ".intercalate failure.chain

end Failure

structure Outcome where
  output : String
  failure : Option Failure
deriving DecidableEq

open Text

def lines (texts : List String) : String :=
  String.join (texts.map (· ++ "\n"))

def entryLines (entry : SchemaEntry) : List String :=
  s!"{entry.kind}: {entry.name} (table: {entry.table}, page: {entry.rootPage.toNat})" ::
    (entry.sql.map fun sql ↦ s!"  SQL: {sql}").toList

def answerLines : Answer → List String
  | .count n => [n.repr]
  | .rows rows => rows.map ("|".intercalate ·)

def outcome (fail : Error → Failure) : Except Error (List String) → Outcome
  | .ok texts => ⟨lines texts, none⟩
  | .error e => ⟨"", some (fail e)⟩

/-- The page size is printed before the first page is looked at. -/
def info (db : Database) : Outcome :=
  let pageSize := s!"database page size: {db.pageSize}"
  match db.entryCount with
  | .ok count => ⟨lines [pageSize, s!"number of tables: {count}"], none⟩
  | .error e => ⟨lines [pageSize], some (.listing e)⟩

def tables (db : Database) : Outcome :=
  outcome .listing (db.tables.map fun names ↦ [" ".intercalate names])

def schema (db : Database) : Outcome :=
  outcome .listing (db.entries.map fun entries ↦ entries.flatMap entryLines)

def query (db : Database) (sql : String) : Outcome :=
  outcome (.querying sql) ((db.answerText sql).map answerLines)

def answer (db : Database) (command : List Char) : Outcome :=
  let text := String.ofList command
  if text = ".dbinfo" then info db
  else if text = ".tables" then tables db
  else if text = ".schema" then schema db
  else if command.head? = some '.' then ⟨"", some (.unknownCommand text)⟩
  else if (words command).head?.any (sameLetters · "select".toList) then query db text
  else ⟨"", some (.notSelect text)⟩

def run (path : String) (file : Except FileFault Bytes) (command : String) : Outcome :=
  match (file.mapError Error.file).bind Database.ofFile with
  | .error e => ⟨"", some (.opening path e)⟩
  | .ok db => answer db (trim command.toList)

end Console

end TableFile
