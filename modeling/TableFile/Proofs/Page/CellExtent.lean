import TableFile.Proofs.Page.CellFormat

namespace TableFile

variable {fields fields' rest rest' page page' : Bytes} {offset size size' : Nat}

theorem Bytes.window_eq_of_agree
    (h : ∀ i, offset ≤ i → i < offset + size → page'[i]? = page[i]?) :
    page'.window offset size = page.window offset size := by
  apply List.ext_getElem?
  intro i
  rw [window, window, List.getElem?_take, List.getElem?_take]
  split
  · next hi =>
    rw [List.getElem?_drop, List.getElem?_drop]
    exact h _ (Nat.le_add_right _ _) (Nat.add_lt_add_left hi _)
  · rfl

theorem Page.Kind.ofTag_eq_error {tag : UInt8} (h : ∀ kind : Page.Kind, tag ≠ kind.tag) :
    ofTag tag = .error (.unrecognizedPageKind tag) := by
  have h₁ : tag ≠ 0x02 := h .indexInterior
  have h₂ : tag ≠ 0x05 := h .tableInterior
  have h₃ : tag ≠ 0x0A := h .indexLeaf
  have h₄ : tag ≠ 0x0D := h .tableLeaf
  rw [ofTag, if_neg h₁, if_neg h₂, if_neg h₃, if_neg h₄]

namespace Varint

variable {bytes bytes' : Bytes} {value value' : UInt64}

theorem Spells.ne_nil (h : Spells bytes value) : bytes ≠ [] := by
  rintro rfl
  cases h

/-- Where a varint ends can be told from its own bytes. -/
theorem Spells.append_inj (h : Spells bytes value) (h' : Spells bytes' value')
    (heq : bytes ++ rest = bytes' ++ rest') : bytes = bytes' ∧ rest = rest' := by
  have hread := h.read_append rest
  rw [heq, h'.read_append rest'] at hread
  exact List.append_inj heq (Prod.mk.inj (Except.ok.inj hread)).2.symm

end Varint

namespace Cell

variable {cell : Cell} {kind : Page.Kind}

theorem Fields.ne_nil (h : Fields fields cell) : fields ≠ [] := by
  cases h with
  | tableInterior _ _ hid => exact List.append_ne_nil_of_right_ne_nil _ hid.ne_nil
  | tableLeaf hcount => exact List.append_ne_nil_of_left_ne_nil hcount.ne_nil _
  | indexInterior _ _ hcount => exact List.append_ne_nil_of_right_ne_nil _ hcount.ne_nil
  | indexLeaf hcount => exact hcount.ne_nil

theorem Fields.append_inj (h : Fields fields cell) (h' : Fields fields' cell)
    (heq : fields ++ rest = fields' ++ rest') : fields = fields' ∧ rest = rest' := by
  cases h with
  | tableInterior hlength _ hid =>
    cases h' with
    | tableInterior hlength' _ hid' =>
      rw [List.append_assoc, List.append_assoc] at heq
      obtain ⟨rfl, hbehind⟩ := List.append_inj heq (hlength.trans hlength'.symm)
      obtain ⟨rfl, hrest⟩ := hid.append_inj hid' hbehind
      exact ⟨rfl, hrest⟩
  | tableLeaf hcount _ hid =>
    cases h' with
    | tableLeaf hcount' _ hid' =>
      rw [List.append_assoc, List.append_assoc] at heq
      obtain ⟨rfl, hbehind⟩ := hcount.append_inj hcount' heq
      obtain ⟨rfl, hrest⟩ := hid.append_inj hid' hbehind
      exact ⟨rfl, hrest⟩
  | indexInterior hlength _ hcount =>
    cases h' with
    | indexInterior hlength' _ hcount' =>
      rw [List.append_assoc, List.append_assoc] at heq
      obtain ⟨rfl, hbehind⟩ := List.append_inj heq (hlength.trans hlength'.symm)
      obtain ⟨rfl, hrest⟩ := hcount.append_inj hcount' hbehind
      exact ⟨rfl, hrest⟩
  | indexLeaf hcount =>
    cases h' with
    | indexLeaf hcount' => exact hcount.append_inj hcount' heq

/-- The bytes of the page from the offset on, as many as the size says, are the fields of the cell
and its whole payload. -/
structure Occupies (cell : Cell) (page : Bytes) (offset size : Nat) : Prop where
  le_length : offset + size ≤ page.length
  fields : ∃ fields, page.window offset size = fields ++ cell.payload?.getD [] ∧ Fields fields cell

theorem exists_occupies (hdrop : page.drop offset = fields ++ (cell.payload?.getD [] ++ rest))
    (hfields : Fields fields cell) : ∃ size, cell.Occupies page offset size := by
  have hlength := congrArg List.length hdrop
  rw [← List.append_assoc] at hdrop
  rw [List.length_drop, ← List.append_assoc, List.length_append] at hlength
  refine ⟨(fields ++ cell.payload?.getD []).length, ?_, fields, ?_, hfields⟩
  · have hpos : 0 < fields.length := List.length_pos_of_ne_nil hfields.ne_nil
    rw [List.length_append] at hlength ⊢
    omega
  · rw [Bytes.window, hdrop, List.take_left]

namespace Occupies

variable (h : cell.Occupies page offset size)
include h

theorem exists_drop_eq : ∃ fields, Fields fields cell ∧
    page.drop offset = fields ++ (cell.payload?.getD [] ++ page.drop (offset + size)) := by
  obtain ⟨fields, hwindow, hfields⟩ := h.fields
  refine ⟨fields, hfields, ?_⟩
  rw [← List.append_assoc, ← hwindow, Bytes.window, ← List.drop_drop, List.take_append_drop]

theorem size_pos : 0 < size := by
  obtain ⟨fields, hwindow, hfields⟩ := h.fields
  have hlength := congrArg List.length hwindow
  rw [Bytes.length_window h.le_length, List.length_append] at hlength
  have hpos : 0 < fields.length := List.length_pos_of_ne_nil hfields.ne_nil
  omega

theorem size_unique (h' : cell.Occupies page offset size') : size' = size := by
  obtain ⟨fields, hfields, hdrop⟩ := h.exists_drop_eq
  obtain ⟨fields', hfields', hdrop'⟩ := h'.exists_drop_eq
  obtain ⟨-, hrest⟩ := hfields.append_inj hfields' (hdrop.symm.trans hdrop')
  have hlength := congrArg List.length (List.append_cancel_left hrest)
  have hle := h.le_length
  have hle' := h'.le_length
  rw [List.length_drop, List.length_drop] at hlength
  omega

/-- No other bytes of the page have a part in the cell. -/
theorem of_agree (hagree : ∀ i, offset ≤ i → i < offset + size → page'[i]? = page[i]?) :
    cell.Occupies page' offset size := by
  have hpos := h.size_pos
  have hle := h.le_length
  refine ⟨?_, Bytes.window_eq_of_agree hagree ▸ h.fields⟩
  -- The other page has the last of these bytes too.
  have hlast := hagree (offset + size - 1) (by omega) (by omega)
  rw [List.getElem?_eq_getElem (by omega : offset + size - 1 < page.length)] at hlast
  have hlt := (List.getElem?_eq_some_iff.mp hlast).1
  omega

end Occupies

theorem decode_eq_ok_iff_occupies :
    decode kind page offset = .ok cell ↔
      cell.kind = kind ∧ ∃ size, cell.Occupies page offset size := by
  rw [decode_eq_ok_iff]
  constructor
  · rintro ⟨-, hkind, fields, rest, hdrop, hfields⟩
    exact ⟨hkind, exists_occupies hdrop hfields⟩
  · rintro ⟨hkind, size, h⟩
    obtain ⟨fields, hfields, hdrop⟩ := h.exists_drop_eq
    have hpos := h.size_pos
    have hle := h.le_length
    exact ⟨by omega, hkind, fields, _, hdrop, hfields⟩

/-- A cell can be decoded if and only if the page has a byte at the offset and the bytes from there
on are the fields of a cell of the kind and its payload. How many these are is certain, and with
the same bytes at the same place every other page has the same cell there. A tag only says which
kind it is. -/
theorem decode_iff_occupies :
    (∀ kind page offset cell, decode kind page offset = .ok cell ↔
      offset < page.length ∧ cell.kind = kind ∧ ∃ size, cell.Occupies page offset size) ∧
    (∀ kind page offset cell size, decode kind page offset = .ok cell →
      cell.Occupies page offset size →
      (∀ size', cell.Occupies page offset size' → size' = size) ∧
      ∀ page' : Bytes, (∀ i, offset ≤ i → i < offset + size → page'[i]? = page[i]?) →
        decode kind page' offset = .ok cell) ∧
    (∀ (kind : Page.Kind) page offset,
      decodeTagged kind.tag page offset = decode kind page offset) ∧
    ∀ tag, (∀ kind : Page.Kind, tag ≠ kind.tag) → ∀ page offset,
      decodeTagged tag page offset = .error (.unrecognizedPageKind tag) := by
  refine ⟨fun kind page offset cell ↦ ?_, fun kind page offset cell size hdecode h ↦ ⟨?_, ?_⟩,
    fun kind page offset ↦ ?_, fun tag htag page offset ↦ ?_⟩
  · rw [decode_eq_ok_iff_occupies, iff_and_self]
    rintro ⟨-, size, h⟩
    exact Nat.lt_of_lt_of_le (Nat.lt_add_of_pos_right h.size_pos) h.le_length
  · exact fun size' ↦ h.size_unique
  · intro page' hagree
    have hkind := (decode_eq_ok_iff_occupies.mp hdecode).1
    exact decode_eq_ok_iff_occupies.mpr ⟨hkind, size, h.of_agree hagree⟩
  · rw [decodeTagged, Page.Kind.ofTag_tag]
    rfl
  · rw [decodeTagged, Page.Kind.ofTag_eq_error htag]
    rfl

/-- A cell with the row id -1, the size of whose payload is written in two bytes. -/
def lastRow : Bytes :=
  [0x80, 0x02, 0xFF, 0xFF, 0xFF, 0xFF, 0xFF, 0xFF, 0xFF, 0xFF, 0xFF, 0x02, 0x00]

theorem decode_iff_occupies_lastRow :
    decode .tableLeaf (0xEE :: lastRow) 1 = .ok (.tableLeaf (-1) [2, 0]) ∧
    (Cell.tableLeaf (-1) [2, 0]).Occupies (0xEE :: lastRow) 1 13 ∧
    decode .tableLeaf (0 :: lastRow ++ [7, 7]) 1 = .ok (.tableLeaf (-1) [2, 0]) ∧
    (∀ kind : Page.Kind, 7 ≠ kind.tag) ∧
    decodeTagged 7 lastRow 0 = .error (.unrecognizedPageKind 7) := by
  obtain ⟨-, hlocal, -, htag⟩ := decode_iff_occupies
  have hdecode : decode .tableLeaf (0xEE :: lastRow) 1 = .ok (.tableLeaf (-1) [2, 0]) := by
    decide +kernel
  have hcount : Varint.Spells [0x80, 0x02] 2 := rfl
  have hid : Varint.Spells [0xFF, 0xFF, 0xFF, 0xFF, 0xFF, 0xFF, 0xFF, 0xFF, 0xFF]
      (-1 : Int64).toUInt64 := rfl
  have hoccupies : (Cell.tableLeaf (-1) [2, 0]).Occupies (0xEE :: lastRow) 1 13 :=
    ⟨by decide, _, rfl, .tableLeaf hcount rfl hid⟩
  have hother : ∀ kind : Page.Kind, 7 ≠ kind.tag := by
    intro kind
    cases kind <;> decide
  refine ⟨hdecode, hoccupies, (hlocal _ _ _ _ _ hdecode hoccupies).2 _ ?_, hother,
    htag 7 hother _ _⟩
  intro i hle hlt
  obtain ⟨j, rfl⟩ := Nat.exists_eq_add_of_le' hle
  exact List.getElem?_append_left hlt

end Cell

end TableFile
