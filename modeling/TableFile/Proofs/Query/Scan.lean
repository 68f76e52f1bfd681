import TableFile.Proofs.Page.Cell
import TableFile.Query.Answer

namespace TableFile

structure Row where
  rowId : Int64
  record : Record

namespace Row

def stored (row : Row) (column : Column) : Value :=
  row.record.values.getD column.ordinal .null

/-- The value of a column is what is stored, but the row id for a null where the column stands for
it. A record that ends before the place of a column holds null there. -/
def value (row : Row) (column : Column) : Value :=
  if column.isRowId ∧ row.stored column = .null then .integer row.rowId else row.stored column

def texts (row : Row) (columns : List Column) : List String :=
  columns.map fun column ↦ (row.value column).display

def ofCell? : Except Error Cell → Option Row
  | .ok (.tableLeaf rowId payload) => (Record.decode payload).toOption.map (⟨rowId, ·⟩)
  | _ => none

theorem valueAt_eq (row : Row) (column : Column) :
    Query.valueAt row.record column row.rowId = row.value column := by
  unfold Query.valueAt value stored
  rw [List.getD_eq_getElem?_getD]
  cases row.record.values[column.ordinal]? with
  | none => simp
  | some v => cases v <;> simp

end Row

def Page.rows (page : Page) : List Row :=
  page.cells.filterMap Row.ofCell?

def Predicate.fault? (predicate : Predicate) : Option Error :=
  if predicate.operator = .equal then none else some (.undecidable predicate.operator.symbol)

theorem Predicate.holds_eq_error_iff {predicate : Predicate} {value : Value} {e : Error} :
    predicate.holds value = .error e ↔ predicate.fault? = some e := by
  unfold holds fault?
  split <;> simp

namespace Query

/-- What a scan finds wrong with a cell: the cell itself, or its record, or else the predicate. -/
def fault? (predicate : Option Predicate) : Except Error Cell → Option Error
  | .error e => some e
  | .ok cell =>
    match Record.decode (cell.payload?.getD []) with
    | .error e => some e
    | .ok _ => predicate.bind Predicate.fault?

def Filter.selects (filter : Filter) (row : Row) : Bool :=
  filter.predicate.holds (row.value filter.column) = .ok true

theorem fault?_eq_none {predicate : Option Predicate} {cell : Except Error Cell}
    (hcell : fault? none cell = none) (hpredicate : predicate.bind Predicate.fault? = none) :
    fault? predicate cell = none := by
  cases cell with
  | error e => simp [fault?] at hcell
  | ok cell =>
    simp only [fault?] at hcell ⊢
    cases hr : Record.decode (cell.payload?.getD []) with
    | error e => simp [hr] at hcell
    | ok record => exact hpredicate

theorem keeps_eq_error_iff {filter : Option Filter} {record : Record} {rowId : Int64} {e : Error} :
    keeps filter record rowId = .error e ↔
      (filter.map Filter.predicate).bind Predicate.fault? = some e := by
  cases filter with
  | none => simp [keeps]
  | some f => simp [keeps, Predicate.holds_eq_error_iff]

theorem keeps_eq_ok {filter : Option Filter} (row : Row)
    (h : (filter.map Filter.predicate).bind Predicate.fault? = none) :
    keeps filter row.record row.rowId = .ok (filter.all (·.selects row)) := by
  cases hk : keeps filter row.record row.rowId with
  | error e => simp [keeps_eq_error_iff.mp hk] at h
  | ok kept =>
    cases filter with
    | none => simpa [keeps] using hk.symm
    | some f =>
      rw [keeps, Row.valueAt_eq] at hk
      simp [Filter.selects, hk]

theorem row?_eq (shown : List Column) (filter : Option Filter) (rowId : Int64) (payload : Bytes) :
    row? shown filter rowId payload =
      match fault? (filter.map Filter.predicate) (.ok (.tableLeaf rowId payload)) with
      | some e => .error e
      | none => .ok (((Row.ofCell? (.ok (.tableLeaf rowId payload))).filter fun row ↦
          filter.all (·.selects row)).map (·.texts shown)) := by
  simp only [row?, fault?, Cell.payload?, Option.getD_some, Row.ofCell?]
  cases Record.decode payload with
  | error e => rfl
  | ok record =>
    simp only [Except.ok_bind]
    cases hf : (filter.map Filter.predicate).bind Predicate.fault? with
    | some e => rw [keeps_eq_error_iff.mpr hf]; rfl
    | none =>
      rw [keeps_eq_ok ⟨rowId, record⟩ hf]
      simp only [Except.ok_bind, Except.toOption, Option.map_some, Option.filter_some]
      split
      · simp only [Except.pure_eq_ok, Row.texts, ← Row.valueAt_eq, Option.map_some]
      · rfl

/-- A scan gives the first fault, or the rows that satisfy the predicate in order. -/
theorem rows_eq (shown : List Column) (filter : Option Filter) {cells : List (Except Error Cell)}
    (hkind : ∀ cell, .ok cell ∈ cells → cell.kind = .tableLeaf) :
    rows shown filter cells =
      match cells.findSome? (fault? (filter.map Filter.predicate)) with
      | some e => .error e
      | none => .ok (((cells.filterMap Row.ofCell?).filter fun row ↦
          filter.all (·.selects row)).map (·.texts shown)) := by
  induction cells with
  | nil => rfl
  | cons cell cells ih =>
    have ih := ih fun cell h ↦ hkind cell (List.mem_cons_of_mem _ h)
    match cell with
    | .error e => rfl
    | .ok (.tableLeaf rowId payload) =>
      rw [rows, row?_eq, List.findSome?_cons, ih]
      cases hfault : fault? (filter.map Filter.predicate) (.ok (.tableLeaf rowId payload)) with
      | some e => rfl
      | none =>
        simp only [Except.ok_bind]
        cases cells.findSome? (fault? (filter.map Filter.predicate)) with
        | some e => rfl
        | none =>
          simp only [Except.ok_bind, Except.pure_eq_ok, List.filterMap_cons]
          cases Row.ofCell? (.ok (.tableLeaf rowId payload)) with
          | none => rfl
          | some row =>
            simp only [List.filter_cons, Option.filter_some]
            split <;> rfl
    | .ok (.tableInterior ..) | .ok (.indexInterior ..) | .ok (.indexLeaf ..) =>
      exact absurd (hkind _ (.head _)) (by simp [Cell.kind])

end Query

theorem Row.isSome_ofCell?_iff {cells : List (Except Error Cell)} {cell : Except Error Cell}
    (hkind : ∀ cell, .ok cell ∈ cells → cell.kind = .tableLeaf) (hcell : cell ∈ cells) :
    (Row.ofCell? cell).isSome ↔ Query.fault? none cell = none := by
  match cell with
  | .error e => simp [Row.ofCell?, Query.fault?]
  | .ok (.tableLeaf rowId payload) =>
    simp only [Row.ofCell?, Query.fault?, Cell.payload?, Option.getD_some]
    cases Record.decode payload <;> simp [Except.toOption]
  | .ok (.tableInterior ..) | .ok (.indexInterior ..) | .ok (.indexLeaf ..) =>
    exact absurd (hkind _ hcell) (by simp [Cell.kind])

namespace Query

theorem map_length_rows (shown shown' : List Column) (filter : Option Filter)
    {cells : List (Except Error Cell)} (hkind : ∀ cell, .ok cell ∈ cells → cell.kind = .tableLeaf) :
    (rows shown filter cells).map List.length = (rows shown' filter cells).map List.length := by
  rw [rows_eq shown filter hkind, rows_eq shown' filter hkind]
  cases cells.findSome? (fault? (filter.map Filter.predicate)) with
  | some e => rfl
  | none => simp [Except.map]

theorem length_rows_none {shown : List Column} {cells : List (Except Error Cell)}
    {texts : List (List String)} (hkind : ∀ cell, .ok cell ∈ cells → cell.kind = .tableLeaf)
    (h : rows shown none cells = .ok texts) : texts.length = cells.length := by
  rw [rows_eq shown none hkind] at h
  split at h
  · cases h
  · next hfault =>
    obtain rfl := Except.ok.inj h
    rw [List.findSome?_eq_none_iff] at hfault
    simp only [Option.all_none, List.filter_true, List.length_map]
    rw [List.length_filterMap_eq_countP, List.countP_eq_length]
    exact fun cell hcell ↦ (Row.isSome_ofCell?_iff hkind hcell).mpr (hfault cell hcell)

end Query

end TableFile
