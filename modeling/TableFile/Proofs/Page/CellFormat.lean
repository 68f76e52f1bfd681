import TableFile.Proofs.Bytes.Window
import TableFile.Proofs.Page.Cell
import TableFile.Proofs.Varint.Extent

namespace TableFile

/-- The bytes are a varint of the number, with none to spare. -/
def Varint.Spells (bytes : Bytes) (value : UInt64) : Prop :=
  read bytes = .ok (value, bytes.length)

namespace Varint

variable {data bytes : Bytes} {value : UInt64} {size : Nat}

theorem Spells.read_append (h : Spells bytes value) (rest : Bytes) :
    read (bytes ++ rest) = .ok (value, bytes.length) := by
  have hread := (read_local h).2 rest
  rwa [List.take_length] at hread

theorem spells_take (h : read data = .ok (value, size)) : Spells (data.take size) value := by
  obtain ⟨hsize, hread⟩ := read_local h
  rw [Spells, List.length_take_of_le hsize, ← List.append_nil (data.take size)]
  exact hread []

theorem spells_encode (value : UInt64) : Spells (encode value) value := by
  have hread := read_encode value []
  rwa [List.append_nil] at hread

end Varint

namespace Cell

inductive Fields : Bytes → Cell → Prop
  | tableInterior {child id : Bytes} {leftChild : UInt32} {rowId : Int64}
      (hlength : child.length = 4) (hchild : child.bigEndian = leftChild.toNat)
      (hid : Varint.Spells id rowId.toUInt64) :
      Fields (child ++ id) (.tableInterior leftChild rowId)
  | tableLeaf {count id payload : Bytes} {size : UInt64} {rowId : Int64}
      (hcount : Varint.Spells count size) (hsize : size.toNat = payload.length)
      (hid : Varint.Spells id rowId.toUInt64) : Fields (count ++ id) (.tableLeaf rowId payload)
  | indexInterior {child count payload : Bytes} {leftChild : UInt32} {size : UInt64}
      (hlength : child.length = 4) (hchild : child.bigEndian = leftChild.toNat)
      (hcount : Varint.Spells count size) (hsize : size.toNat = payload.length) :
      Fields (child ++ count) (.indexInterior leftChild payload)
  | indexLeaf {count payload : Bytes} {size : UInt64}
      (hcount : Varint.Spells count size) (hsize : size.toNat = payload.length) :
      Fields count (.indexLeaf payload)

variable {data rest : Bytes}

theorem exists_spells_of_nextVarint {value : UInt64} (h : nextVarint data = .ok (value, rest)) :
    ∃ bytes, data = bytes ++ rest ∧ Varint.Spells bytes value := by
  obtain ⟨⟨value', size⟩, hread, h⟩ := Except.bind_eq_ok_iff.mp h
  obtain ⟨rfl, rfl⟩ := Prod.mk.inj (Except.ok.inj h)
  exact ⟨data.take size, (List.take_append_drop size data).symm, Varint.spells_take hread⟩

theorem nextVarint_of_spells {bytes : Bytes} {value : UInt64} (h : Varint.Spells bytes value)
    (rest : Bytes) : nextVarint (bytes ++ rest) = .ok (value, rest) := by
  rw [nextVarint, h.read_append]
  simp only [Except.ok_bind, Except.pure_eq_ok, List.drop_left]

theorem exists_spells_of_nextRowId {rowId : Int64} (h : nextRowId data = .ok (rowId, rest)) :
    ∃ bytes, data = bytes ++ rest ∧ Varint.Spells bytes rowId.toUInt64 := by
  obtain ⟨⟨value, rest'⟩, hread, h⟩ := Except.bind_eq_ok_iff.mp h
  obtain ⟨rfl, rfl⟩ := Prod.mk.inj (Except.ok.inj h)
  exact exists_spells_of_nextVarint hread

theorem nextRowId_of_spells {bytes : Bytes} {rowId : Int64}
    (h : Varint.Spells bytes rowId.toUInt64) (rest : Bytes) :
    nextRowId (bytes ++ rest) = .ok (rowId, rest) := by
  rw [nextRowId, nextVarint_of_spells h]
  rfl

theorem exists_bigEndian_of_nextChild {child : UInt32} (h : nextChild data = .ok (child, rest)) :
    ∃ bytes, data = bytes ++ rest ∧ bytes.length = 4 ∧ bytes.bigEndian = child.toNat := by
  rw [nextChild] at h
  split at h
  · next bytes rest' hsplit =>
    obtain ⟨rfl, rfl⟩ := Prod.mk.inj (Except.ok.inj h)
    obtain ⟨hlength, rfl⟩ := Bytes.splitAt?_eq_some_iff.mp hsplit
    have hlt := Bytes.bigEndian_lt bytes
    rw [hlength] at hlt
    exact ⟨bytes, rfl, hlength, (UInt32.toNat_ofNat_of_lt' hlt).symm⟩
  · cases h

theorem nextChild_of_bigEndian {bytes : Bytes} {child : UInt32} (hlength : bytes.length = 4)
    (hchild : bytes.bigEndian = child.toNat) (rest : Bytes) :
    nextChild (bytes ++ rest) = .ok (child, rest) := by
  rw [nextChild, Bytes.splitAt?_eq_some_iff.mpr ⟨hlength, rfl⟩]
  simp only [hchild, UInt32.ofNat_toNat]

theorem exists_append_of_nextPayload {size : UInt64} {payload : Bytes}
    (h : nextPayload size data = .ok payload) :
    size.toNat = payload.length ∧ ∃ rest, data = payload ++ rest := by
  rw [nextPayload] at h
  split at h
  · next payload' rest' hsplit =>
    obtain rfl := Except.ok.inj h
    obtain ⟨hlength, rfl⟩ := Bytes.splitAt?_eq_some_iff.mp hsplit
    exact ⟨hlength.symm, rest', rfl⟩
  · cases h

theorem nextPayload_of_length {size : UInt64} {payload : Bytes} (h : size.toNat = payload.length)
    (rest : Bytes) : nextPayload size (payload ++ rest) = .ok payload := by
  rw [nextPayload, Bytes.splitAt?_eq_some_iff.mpr ⟨h.symm, rfl⟩]

theorem exists_fields_of_read {kind : Page.Kind} {cell : Cell} (h : read kind data = .ok cell) :
    ∃ fields rest, data = fields ++ (cell.payload?.getD [] ++ rest) ∧ Fields fields cell := by
  cases kind with
  | tableInterior =>
    obtain ⟨⟨leftChild, data₁⟩, hchild, h⟩ := Except.bind_eq_ok_iff.mp h
    obtain ⟨⟨rowId, rest⟩, hid, h⟩ := Except.bind_eq_ok_iff.mp h
    obtain rfl := Except.ok.inj h
    obtain ⟨child, rfl, hlength, hvalue⟩ := exists_bigEndian_of_nextChild hchild
    obtain ⟨id, rfl, hspells⟩ := exists_spells_of_nextRowId hid
    exact ⟨child ++ id, rest, (List.append_assoc ..).symm, .tableInterior hlength hvalue hspells⟩
  | tableLeaf =>
    obtain ⟨⟨size, data₁⟩, hcount, h⟩ := Except.bind_eq_ok_iff.mp h
    obtain ⟨⟨rowId, data₂⟩, hid, h⟩ := Except.bind_eq_ok_iff.mp h
    obtain ⟨payload, hpayload, h⟩ := Except.bind_eq_ok_iff.mp h
    obtain rfl := Except.ok.inj h
    obtain ⟨count, rfl, hstated⟩ := exists_spells_of_nextVarint hcount
    obtain ⟨id, rfl, hspells⟩ := exists_spells_of_nextRowId hid
    obtain ⟨hsize, rest, rfl⟩ := exists_append_of_nextPayload hpayload
    exact ⟨count ++ id, rest, (List.append_assoc ..).symm, .tableLeaf hstated hsize hspells⟩
  | indexInterior =>
    obtain ⟨⟨leftChild, data₁⟩, hchild, h⟩ := Except.bind_eq_ok_iff.mp h
    obtain ⟨⟨size, data₂⟩, hcount, h⟩ := Except.bind_eq_ok_iff.mp h
    obtain ⟨payload, hpayload, h⟩ := Except.bind_eq_ok_iff.mp h
    obtain rfl := Except.ok.inj h
    obtain ⟨child, rfl, hlength, hvalue⟩ := exists_bigEndian_of_nextChild hchild
    obtain ⟨count, rfl, hstated⟩ := exists_spells_of_nextVarint hcount
    obtain ⟨hsize, rest, rfl⟩ := exists_append_of_nextPayload hpayload
    exact ⟨child ++ count, rest, (List.append_assoc ..).symm,
      .indexInterior hlength hvalue hstated hsize⟩
  | indexLeaf =>
    obtain ⟨⟨size, data₁⟩, hcount, h⟩ := Except.bind_eq_ok_iff.mp h
    obtain ⟨payload, hpayload, h⟩ := Except.bind_eq_ok_iff.mp h
    obtain rfl := Except.ok.inj h
    obtain ⟨count, rfl, hstated⟩ := exists_spells_of_nextVarint hcount
    obtain ⟨hsize, rest, rfl⟩ := exists_append_of_nextPayload hpayload
    exact ⟨count, rest, rfl, .indexLeaf hstated hsize⟩

theorem read_of_fields {fields : Bytes} {cell : Cell} (h : Fields fields cell) (rest : Bytes) :
    read cell.kind (fields ++ (cell.payload?.getD [] ++ rest)) = .ok cell := by
  cases h with
  | tableInterior hlength hchild hid =>
    simp only [kind, read, List.append_assoc, nextChild_of_bigEndian hlength hchild,
      nextRowId_of_spells hid, Except.ok_bind, Except.pure_eq_ok]
  | tableLeaf hcount hsize hid =>
    simp only [kind, read, payload?, Option.getD_some, List.append_assoc,
      nextVarint_of_spells hcount, nextRowId_of_spells hid, nextPayload_of_length hsize,
      Except.ok_bind, Except.pure_eq_ok]
  | indexInterior hlength hchild hcount hsize =>
    simp only [kind, read, payload?, Option.getD_some, List.append_assoc,
      nextChild_of_bigEndian hlength hchild, nextVarint_of_spells hcount,
      nextPayload_of_length hsize, Except.ok_bind, Except.pure_eq_ok]
  | indexLeaf hcount hsize =>
    simp only [kind, read, payload?, Option.getD_some, nextVarint_of_spells hcount,
      nextPayload_of_length hsize, Except.ok_bind, Except.pure_eq_ok]

inductive Shortage : Error → Prop
  | varint (available : Nat) : Shortage (.truncated .varint (available + 1) available)
  | leftChild {available : Nat} (h : available < 4) : Shortage (.truncated .leftChild 4 available)
  | payload {size : UInt64} {available : Nat} (h : available < size.toNat) :
      Shortage (.payloadTooLarge size available)

variable {e : Error}

theorem shortage_of_nextVarint (h : nextVarint data = .error e) : Shortage e := by
  rcases Except.bind_eq_error_iff.mp h with hread | ⟨_, -, hrest⟩
  · rw [Varint.read] at hread
    split at hread
    · cases hread
    · obtain rfl := Except.error.inj hread
      exact .varint _
  · cases hrest

theorem shortage_of_nextRowId (h : nextRowId data = .error e) : Shortage e := by
  rcases Except.bind_eq_error_iff.mp h with hread | ⟨_, -, hrest⟩
  · exact shortage_of_nextVarint hread
  · cases hrest

theorem shortage_of_nextChild (h : nextChild data = .error e) : Shortage e := by
  rw [nextChild] at h
  split at h
  · cases h
  · next hsplit =>
    obtain rfl := Except.error.inj h
    exact .leftChild (Bytes.splitAt?_eq_none_iff.mp hsplit)

theorem shortage_of_nextPayload {size : UInt64} (h : nextPayload size data = .error e) :
    Shortage e := by
  rw [nextPayload] at h
  split at h
  · cases h
  · next hsplit =>
    obtain rfl := Except.error.inj h
    exact .payload (Bytes.splitAt?_eq_none_iff.mp hsplit)

theorem shortage_of_read {kind : Page.Kind} (h : read kind data = .error e) : Shortage e := by
  cases kind with
  | tableInterior =>
    rcases Except.bind_eq_error_iff.mp h with hchild | ⟨_, -, h⟩
    · exact shortage_of_nextChild hchild
    rcases Except.bind_eq_error_iff.mp h with hid | ⟨_, -, h⟩
    · exact shortage_of_nextRowId hid
    · cases h
  | tableLeaf =>
    rcases Except.bind_eq_error_iff.mp h with hcount | ⟨_, -, h⟩
    · exact shortage_of_nextVarint hcount
    rcases Except.bind_eq_error_iff.mp h with hid | ⟨_, -, h⟩
    · exact shortage_of_nextRowId hid
    rcases Except.bind_eq_error_iff.mp h with hpayload | ⟨_, -, h⟩
    · exact shortage_of_nextPayload hpayload
    · cases h
  | indexInterior =>
    rcases Except.bind_eq_error_iff.mp h with hchild | ⟨_, -, h⟩
    · exact shortage_of_nextChild hchild
    rcases Except.bind_eq_error_iff.mp h with hcount | ⟨_, -, h⟩
    · exact shortage_of_nextVarint hcount
    rcases Except.bind_eq_error_iff.mp h with hpayload | ⟨_, -, h⟩
    · exact shortage_of_nextPayload hpayload
    · cases h
  | indexLeaf =>
    rcases Except.bind_eq_error_iff.mp h with hcount | ⟨_, -, h⟩
    · exact shortage_of_nextVarint hcount
    rcases Except.bind_eq_error_iff.mp h with hpayload | ⟨_, -, h⟩
    · exact shortage_of_nextPayload hpayload
    · cases h

theorem decode_eq_read {kind : Page.Kind} {page : Bytes} {offset : Nat}
    (h : offset < page.length) : decode kind page offset = read kind (page.drop offset) := by
  rw [decode, List.drop_eq_getElem_cons h]

/-- A cell can be decoded if and only if its fields and then its payload stand at the offset, and
the page has a byte there. -/
theorem decode_eq_ok_iff {kind : Page.Kind} {page : Bytes} {offset : Nat} {cell : Cell} :
    decode kind page offset = .ok cell ↔ offset < page.length ∧ cell.kind = kind ∧
      ∃ fields rest, page.drop offset = fields ++ (cell.payload?.getD [] ++ rest) ∧
        Fields fields cell := by
  by_cases hinside : offset < page.length
  · rw [decode_eq_read hinside]
    constructor
    · intro h
      exact ⟨hinside, kind_of_read h, exists_fields_of_read h⟩
    · rintro ⟨-, rfl, fields, rest, heq, hfields⟩
      rw [heq]
      exact read_of_fields hfields rest
  · rw [decode, List.drop_of_length_le (Nat.not_lt.mp hinside)]
    simp [hinside]

theorem exists_fields_encode {cell : Cell} (h : cell.encode.length < UInt64.size) :
    ∃ fields, cell.encode = fields ++ cell.payload?.getD [] ∧ Fields fields cell := by
  have hsize {payload : Bytes} (hpayload : cell.payload? = some payload) :
      (UInt64.ofNat payload.length).toNat = payload.length :=
    UInt64.toNat_ofNat_of_lt' (Nat.lt_of_le_of_lt (payload_suffix_encode hpayload).length_le h)
  have hchild (child : UInt32) : (Bytes.ofNat 4 child.toNat).bigEndian = child.toNat :=
    Bytes.bigEndian_ofNat_of_lt 4 child.toNat_lt
  cases cell with
  | tableInterior leftChild rowId =>
    refine ⟨_, (List.append_nil _).symm, ?_⟩
    exact .tableInterior (Bytes.length_ofNat _ _) (hchild leftChild) (Varint.spells_encode _)
  | tableLeaf rowId payload =>
    exact ⟨_, rfl, .tableLeaf (Varint.spells_encode _) (hsize rfl) (Varint.spells_encode _)⟩
  | indexInterior leftChild payload =>
    refine ⟨_, rfl, ?_⟩
    exact .indexInterior (Bytes.length_ofNat _ _) (hchild leftChild) (Varint.spells_encode _)
      (hsize rfl)
  | indexLeaf payload => exact ⟨_, rfl, .indexLeaf (Varint.spells_encode _) (hsize rfl)⟩

theorem decode_of_drop_eq {cell : Cell} {data : Bytes} {offset : Nat}
    (h : data.drop offset = cell.encode ++ rest) (hlength : data.length < UInt64.size) :
    decode cell.kind data offset = .ok cell := by
  have hencode : cell.encode.length < UInt64.size := by
    have h := congrArg List.length h
    rw [List.length_drop, List.length_append] at h
    omega
  obtain ⟨fields, heq, hfields⟩ := exists_fields_encode hencode
  refine decode_eq_ok_iff.mpr ⟨lt_length_of_drop_eq h, rfl, fields, rest, ?_, hfields⟩
  rw [h, heq, List.append_assoc]

/-- The payload stands in the page from `start` on, right behind the fields of its cell, and these
begin at the offset. -/
structure PayloadAt (cell : Cell) (page : Bytes) (offset start : Nat) (payload : Bytes) :
    Prop where
  le_start : offset ≤ start
  fields : Fields (page.window offset (start - offset)) cell
  window_eq : page.window start payload.length = payload
  le_length : start + payload.length ≤ page.length

theorem exists_payloadAt_of_decode {kind : Page.Kind} {page payload : Bytes} {offset : Nat}
    {cell : Cell} (h : decode kind page offset = .ok cell)
    (hpayload : cell.payload? = some payload) :
    ∃ start, cell.PayloadAt page offset start payload := by
  obtain ⟨hinside, -, fields, rest, hdrop, hfields⟩ := decode_eq_ok_iff.mp h
  rw [hpayload, Option.getD_some] at hdrop
  have hlength := congrArg List.length hdrop
  rw [List.length_drop, List.length_append, List.length_append] at hlength
  refine ⟨offset + fields.length, Nat.le_add_right _ _, ?_, ?_, by omega⟩
  · rw [Nat.add_sub_cancel_left, Bytes.window, hdrop, List.take_left]
    exact hfields
  · rw [Bytes.window, ← List.drop_drop, hdrop, List.drop_left, List.take_left]

theorem payload_length_le {kind : Page.Kind} {page payload : Bytes} {offset : Nat} {cell : Cell}
    (h : decode kind page offset = .ok cell) (hpayload : cell.payload? = some payload) :
    payload.length ≤ page.length := by
  obtain ⟨start, hstart⟩ := exists_payloadAt_of_decode h hpayload
  exact (Nat.le_add_left _ _).trans hstart.le_length

end Cell

end TableFile
