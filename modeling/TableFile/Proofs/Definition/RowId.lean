import TableFile.Proofs.Definition.Columns

namespace TableFile.Definition

open Text

def columnsOf (items : List (List Char)) : List Column :=
  applyKey (((items.filter isConstraint).findSome? primaryKey?).getD [])
    ((items.filter (!isConstraint ·)).mapIdx fun i item ↦ column item i)

/-- Where the first column is that a key of one column names. A longer key names none. -/
def keyOrdinal? (key : List (List Char)) (columns : List Column) : Option Nat :=
  match key with
  | [name] => columns.findIdx? fun column ↦ sameLetters column.name.toList name
  | _ => none

section Key

variable {key : List (List Char)} {columns : List Column}

theorem applyKey_eq (key : List (List Char)) (columns : List Column) :
    applyKey key columns =
      match keyOrdinal? key columns with
      | some i => columns.modify i Column.withKey
      | none => columns := by
  match key with
  | [] => rfl
  | [_] => rfl
  | _ :: _ :: _ => rfl

theorem getElem?_applyKey (key : List (List Char)) (columns : List Column) (i : Nat) :
    (applyKey key columns)[i]? = columns[i]?.map fun column ↦
      if keyOrdinal? key columns = some i then column.withKey else column := by
  rw [applyKey_eq]
  cases keyOrdinal? key columns with
  | none => simp only [reduceCtorEq, if_false, Option.map_id']
  | some j =>
    rw [List.getElem?_modify]
    simp only [Option.map_eq_map, Option.some.injEq]

theorem applyKey_eq_mapIdx (key : List (List Char)) (columns : List Column) :
    applyKey key columns = columns.mapIdx fun i column ↦
      if keyOrdinal? key columns = some i then column.withKey else column := by
  apply List.ext_getElem?
  intro i
  rw [getElem?_applyKey, List.getElem?_mapIdx]

theorem keyOrdinal?_congr {columns columns' : List Column}
    (h : columns.map Column.name = columns'.map Column.name) (key : List (List Char)) :
    keyOrdinal? key columns = keyOrdinal? key columns' := by
  match key with
  | [] => rfl
  | [name] =>
    have hfind := congrArg (List.findIdx? fun other : String ↦ sameLetters other.toList name) h
    rw [List.findIdx?_map, List.findIdx?_map] at hfind
    exact hfind
  | _ :: _ :: _ => rfl

end Key

section Integer

variable {sql : String} {declared : List Column}

theorem columns_eq_ok_iff : columns sql = .ok declared ↔
    ∃ list, columnList sql = .ok list ∧ columnsOf (items list) = declared := by
  simp only [columns, Except.bind_eq_ok_iff, Except.pure_eq_ok, Except.ok.injEq, columnsOf]

theorem declaresInteger_iff {text : List Char} : declaresInteger text ↔
    ∃ first others, words text = first :: others ∧ sameLetters first "INTEGER".toList := by
  unfold declaresInteger
  cases words text with
  | nil => simp only [List.head?_nil, Option.any_none, reduceCtorEq, false_and, exists_false]
  | cons first others => simp

theorem declaresInteger_of_column {item : List Char} {i : Nat} (h : (column item i).isRowId) :
    declaresInteger (column item i).declaredType.toList := by
  have htype : (column item i).declaredType.toList = (cutName item).2 := String.toList_ofList
  rw [htype]
  exact (Bool.and_eq_true_iff.mp h).1

/-- A column comes to stand for the row id by its own declaration or by the key. Both ask for an
integer type. -/
theorem declaresInteger_of_mem_columnsOf {items : List (List Char)} {found : Column}
    (hmem : found ∈ columnsOf items) (hrow : found.isRowId) :
    declaresInteger found.declaredType.toList := by
  obtain ⟨i, hi⟩ := List.mem_iff_getElem?.mp hmem
  rw [columnsOf, getElem?_applyKey, List.getElem?_mapIdx, Option.map_map,
    Option.map_eq_some_iff] at hi
  obtain ⟨item, -, hfound⟩ := hi
  dsimp only [Function.comp_apply] at hfound
  split at hfound
  · subst hfound
    rcases Bool.or_eq_true_iff.mp hrow with hcolumn | hinteger
    · exact declaresInteger_of_column hcolumn
    · exact hinteger
  · subst hfound
    exact declaresInteger_of_column hrow

end Integer

end TableFile.Definition
