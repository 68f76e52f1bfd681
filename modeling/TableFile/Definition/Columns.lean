import TableFile.Definition.Item
import TableFile.Error

namespace TableFile

/-- Where `isRowId` holds, the column stands for the row id of its row. -/
structure Column where
  name : String
  declaredType : String
  ordinal : Nat
  isRowId : Bool
deriving DecidableEq

def Column.withKey (column : Column) : Column :=
  { column with
    isRowId := column.isRowId || Definition.declaresInteger column.declaredType.toList }

namespace Definition

open Text

/-- The text between the first opening parenthesis and the last closing one. -/
def columnList (sql : String) : Except Error (List Char) :=
  match sql.toList.dropWhile (· ≠ '(') with
  | [] => .error (.badDefinition (.noOpening sql))
  | _ :: rest =>
    match rest.reverse.dropWhile (· ≠ ')') with
    | _ :: inner => .ok inner.reverse
    | [] =>
      if ')' ∈ sql.toList then .error (.badDefinition (.closedBeforeOpened sql))
      else .error (.badDefinition (.noClosing sql))

def items (list : List Char) : List (List Char) :=
  ((splitItems list).map trim).filter (· ≠ [])

def column (item : List Char) (ordinal : Nat) : Column :=
  let (name, declared) := cutName item
  { name := .ofList name
    declaredType := .ofList declared
    ordinal
    isRowId := declaresInteger declared && occursIn "PRIMARY KEY".toList (canonical declared) }

/-- A key of one column makes the first column of that name stand for the row id, if its type is
an integer type. -/
def applyKey (key : List (List Char)) (columns : List Column) : List Column :=
  match key with
  | [name] =>
    match columns.findIdx? fun column ↦ sameLetters column.name.toList name with
    | some i => columns.modify i Column.withKey
    | none => columns
  | _ => columns

/-- The columns in order. Only the first constraint that names a primary key counts. -/
def columns (sql : String) : Except Error (List Column) := do
  let items := items (← columnList sql)
  let declared := (items.filter (!isConstraint ·)).mapIdx fun i item ↦ column item i
  let key := (items.filter isConstraint).findSome? primaryKey?
  return applyKey (key.getD []) declared

end Definition

end TableFile
