import TableFile.Database.Layout
import TableFile.Proofs.Page.Layout
import TableFile.Proofs.Query.Scan
import TableFile.Proofs.Record

namespace TableFile

/-- The text of a column in a row that was written: that of its value there, but the row id for a
null where the column stands for it. -/
def Column.textOf (column : Column) (rowId : Int64) (values : List Value) : String :=
  if column.isRowId ∧ values.getD column.ordinal .null = .null then toString rowId.toInt
  else (values.getD column.ordinal .null).display

def Cell.HoldsRow (row : Int64 × List Value) (cell : Cell) : Prop :=
  ∃ payload record, cell = .tableLeaf row.1 payload ∧ Record.decode payload = .ok record ∧
    record.values = row.2.map Value.reread

theorem Row.display_value {row : Row} {values : List Value} (column : Column)
    (h : row.record.values = values.map Value.reread) :
    (row.value column).display = column.textOf row.rowId values := by
  have hstored : row.stored column = (values.getD column.ordinal .null).reread := by
    rw [Row.stored, h, List.getD_eq_getElem?_getD, List.getD_eq_getElem?_getD, List.getElem?_map]
    cases values[column.ordinal]? <;> rfl
  rw [Row.value, Column.textOf, hstored]
  simp only [Value.reread_eq_null_iff]
  split
  · rfl
  · exact Value.display_reread _

namespace Query

theorem rows_of_holdsRow (shown : List Column) {rows : List (Int64 × List Value)}
    {cells : List Cell} (h : List.Forall₂ Cell.HoldsRow rows cells) :
    Query.rows shown none (cells.map .ok) =
      .ok (rows.map fun row ↦ shown.map fun column ↦ column.textOf row.1 row.2) := by
  induction h with
  | nil => rfl
  | @cons row cell rows cells hcell _ ih =>
    obtain ⟨payload, record, rfl, hrecord, hvalues⟩ := hcell
    have htexts : shown.map (fun column ↦ (valueAt record column row.1).display) =
        shown.map fun column ↦ column.textOf row.1 row.2 := by
      refine List.map_congr_left fun column _ ↦ ?_
      rw [Row.valueAt_eq ⟨row.1, record⟩, Row.display_value column hvalues]
    rw [List.map_cons, Query.rows, ih, row?, hrecord, List.map_cons, ← htexts]
    rfl

end Query

namespace SchemaEntry

theorem readRootPage_eq_ok {found : Option Value} {rootPage : UInt32}
    (h : found.bind Value.integer? = some (.ofNat rootPage.toNat)) :
    readRootPage found = .ok rootPage := by
  have hlt := rootPage.toNat_lt
  have hint : (Int64.ofNat rootPage.toNat).toInt = rootPage.toNat :=
    Int64.toInt_ofNat_of_lt (show rootPage.toNat < 2 ^ 63 by omega)
  have hrange : 0 ≤ (rootPage.toNat : Int) ∧ (rootPage.toNat : Int) < 0x100000000 := by omega
  rw [readRootPage, h]
  simp only [hint, if_pos hrange, Int.toNat_natCast, UInt32.ofNat_toNat]

theorem ofRecord_eq_ok {record : Record} {entry : SchemaEntry}
    (h : record.values = entry.toValues.map Value.reread) : ofRecord record = .ok entry := by
  have hroot : readRootPage record.values[3]? = .ok entry.rootPage := by
    apply readRootPage_eq_ok
    rw [h]
    exact Value.integer?_reread _
  have hsql : record.values[4]?.bind Value.text? = entry.sql := by
    rw [h]
    refine (Value.text?_reread _).trans ?_
    cases entry.sql <;> rfl
  have hkind : textAt record 0 .kind = .ok entry.kind := by rw [textAt, h]; rfl
  have hname : textAt record 1 .name = .ok entry.name := by rw [textAt, h]; rfl
  have htable : textAt record 2 .table = .ok entry.table := by rw [textAt, h]; rfl
  rw [ofRecord, hkind, hname, htable, hroot, hsql]
  rfl

theorem isStorable_of_mem_toValues {entry : SchemaEntry} {value : Value}
    (h : value ∈ entry.toValues) : value.IsStorable := by
  obtain ⟨kind, name, table, rootPage, sql⟩ := entry
  cases sql <;> simp only [toValues, Option.map_none, Option.map_some, Option.getD_none,
    Option.getD_some, List.mem_cons, List.not_mem_nil, or_false] at h <;>
    obtain rfl | rfl | rfl | rfl | rfl := h <;> trivial

theorem ofCell_eq_ok {row : Int64 × List Value} {cell : Cell} {entry : SchemaEntry}
    (h : cell.HoldsRow row) (hrow : row.2 = entry.toValues) : ofCell cell = .ok entry := by
  obtain ⟨payload, record, rfl, hrecord, hvalues⟩ := h
  rw [ofCell, Cell.payload?, Option.getD_some, hrecord, Except.ok_bind]
  exact ofRecord_eq_ok (hrow ▸ hvalues)

end SchemaEntry

theorem Page.schemaEntries_eq_ok {page : Page} {cells : List Cell}
    {rows : List (Int64 × List Value)} {entries : List SchemaEntry} (hkind : page.kind = .tableLeaf)
    (hcells : page.cells = cells.map .ok) (h : List.Forall₂ Cell.HoldsRow rows cells)
    (hentries : List.Forall₂ (fun row entry ↦ row.2 = entry.toValues) rows entries) :
    page.schemaEntries = .ok entries := by
  rw [schemaEntries, if_pos hkind, hcells, Except.mapM_eq_ok_iff, List.forall₂_map_left_iff]
  clear hcells
  induction h generalizing entries with
  | nil =>
    cases hentries
    exact .nil
  | cons hcell _ ih =>
    cases hentries with
    | cons hrow hentries => exact .cons (SchemaEntry.ofCell_eq_ok hcell hrow) (ih hentries)

namespace Database

theorem forall₂_holdsRow {rows : List (Int64 × List Value)} {cells : List Cell}
    (h : rowCells rows = some cells) (hrows : ∀ row ∈ rows, ∀ value ∈ row.2, value.IsStorable)
    (hcells : ∀ cell ∈ cells, cell.encode.length ≤ 65536) :
    List.Forall₂ Cell.HoldsRow rows cells := by
  rw [rowCells, Option.mapM_eq_some_iff] at h
  induction h with
  | nil => exact .nil
  | @cons row cell rows cells hcell _ ih =>
    refine .cons ?_ (ih (fun row hrow ↦ hrows row (List.mem_cons_of_mem _ hrow))
      fun cell hcell ↦ hcells cell (List.mem_cons_of_mem _ hcell))
    obtain ⟨payload, hpayload, rfl⟩ := Option.map_eq_some_iff.mp hcell
    have hlength := (Cell.payload_suffix_encode rfl).length_le.trans (hcells _ List.mem_cons_self)
    have hsmall : 13 + 2 * payload.length < UInt64.size :=
      show _ < 18446744073709551616 by omega
    obtain ⟨headerSize, hdecode⟩ :=
      Record.decode_of_encode? hpayload (hrows row List.mem_cons_self) hsmall
    exact ⟨payload, _, rfl, hdecode, rfl⟩

theorem kind_of_holdsRow {rows : List (Int64 × List Value)} {cells : List Cell}
    (h : List.Forall₂ Cell.HoldsRow rows cells) : ∀ cell ∈ cells, cell.kind = .tableLeaf := by
  induction h with
  | nil => simp
  | cons hcell _ ih =>
    obtain ⟨payload, record, rfl, _⟩ := hcell
    rw [List.forall_mem_cons]
    exact ⟨rfl, ih⟩

/-- A table page is read back as rows, also where the file header is put in front of it. -/
theorem exists_page_of_tablePage? {pageSize : Nat} {number : UInt32}
    {rows : List (Int64 × List Value)} {data page : Bytes} (hsize : pageSize ≤ 65536)
    (hrows : ∀ row ∈ rows, ∀ value ∈ row.2, value.IsStorable)
    (h : tablePage? pageSize number rows = some page) (hlength : data.length = page.length)
    (hdrop : data.drop (Page.headerStart number) = page.drop (Page.headerStart number)) :
    ∃ p cells, Page.decode data number = .ok p ∧ p.Holds number .tableLeaf 0 cells ∧
      List.Forall₂ Cell.HoldsRow rows cells := by
  obtain ⟨cells, hcells, hlayout⟩ := Option.bind_eq_some_iff.mp h
  have hholds := forall₂_holdsRow hcells hrows fun cell hcell ↦
    (Page.length_encode_le hlayout hcell).trans hsize
  obtain ⟨p, hdecode, hp⟩ :=
    Page.holds_of_layout? hsize (kind_of_holdsRow hholds) hlayout hlength hdrop
  exact ⟨p, cells, hdecode, hp, hholds⟩

end Database

end TableFile
