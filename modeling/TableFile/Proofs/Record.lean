import TableFile.Proofs.Except
import TableFile.Proofs.Value.Stored
import TableFile.Proofs.Varint
import TableFile.Record

namespace TableFile.Record

theorem readTypes_of_read {headerSize position size : Nat} {data : Bytes} {code : UInt64}
    (h : position < headerSize) (hread : Varint.read data = .ok (code, size)) :
    readTypes headerSize position data = do
      let (types, stop) ← readTypes headerSize (position + size) (data.drop size)
      return (.ofCode code :: types, stop) := by
  rw [readTypes, if_pos h]
  split
  · next hread' => rw [hread] at hread'; cases hread'
  · next hread' =>
    rw [hread] at hread'
    cases hread'
    rfl

theorem readTypes_flatMap {types : List SerialType} (position : Nat) (rest : Bytes)
    (h : ∀ type ∈ types, .ofCode type.code = type) :
    let codes := types.flatMap fun type ↦ Varint.encode type.code
    readTypes (position + codes.length) position (codes ++ rest) =
      .ok (types, position + codes.length) := by
  induction types generalizing position with
  | nil =>
    unfold readTypes
    simp
  | cons type types ih =>
    have hpos : 0 < (Varint.encode type.code).length :=
      List.length_pos_iff.mpr (Varint.encode_ne_nil type.code)
    have ih := ih (position + (Varint.encode type.code).length)
      fun type htype ↦ h type (List.mem_cons_of_mem _ htype)
    simp only [List.flatMap_cons, List.append_assoc, List.length_append, ← Nat.add_assoc] at ih ⊢
    rw [readTypes_of_read (by omega) (Varint.read_encode type.code _), List.drop_left, ih,
      h type List.mem_cons_self]
    rfl

theorem readValues_flatMap (values : List Value) (rest : Bytes) :
    readValues (values.map Value.storedType) (values.flatMap Value.stored ++ rest) =
      .ok (values.map Value.reread) := by
  induction values with
  | nil => rfl
  | cons value values ih =>
    have hsplit : Bytes.splitAt? value.storedType.size
        (value.stored ++ (values.flatMap Value.stored ++ rest)) =
          some (value.stored, values.flatMap Value.stored ++ rest) :=
      Bytes.splitAt?_eq_some_iff.mpr ⟨value.length_stored, rfl⟩
    rw [List.flatMap_cons, List.append_assoc, List.map_cons, readValues, hsplit]
    simp only [ih, Except.ok_bind, Except.pure_eq_ok, Value.decode_stored, List.map_cons]

theorem decode_of_header {payload : Bytes} {declared : UInt64} {size : Nat}
    (hread : Varint.read payload = .ok (declared, size)) (hsize : size ≤ declared.toNat)
    (hheader : declared.toNat ≤ payload.length) :
    decode payload = do
      let (types, stop) ← readTypes declared.toNat size (payload.drop size)
      if stop ≠ declared.toNat then
        throw (.badRecord (.headerOverrun stop declared.toNat))
      return ⟨declared.toNat, types, ← readValues types (payload.drop declared.toNat)⟩ := by
  have hpos : 0 < size := Varint.read_size_pos hread
  have hne : ¬payload.isEmpty := by
    rw [List.isEmpty_iff, ← List.length_eq_zero_iff]
    omega
  have hbounds : ¬(declared.toNat < size ∨ payload.length < declared.toNat) := by omega
  rw [decode, if_neg hne, hread, Except.ok_bind]
  dsimp only
  rw [if_neg hbounds]

theorem decode_eq_ok {payload : Bytes} {declared : UInt64} {size : Nat} {types : List SerialType}
    {values : List Value} (hread : Varint.read payload = .ok (declared, size))
    (hsize : size ≤ declared.toNat) (hheader : declared.toNat ≤ payload.length)
    (htypes : readTypes declared.toNat size (payload.drop size) = .ok (types, declared.toNat))
    (hvalues : readValues types (payload.drop declared.toNat) = .ok values) :
    decode payload = .ok ⟨declared.toNat, types, values⟩ := by
  rw [decode_of_header hread hsize hheader, htypes]
  simp [hvalues]

theorem length_stored_le {value : Value} {values : List Value} (h : value ∈ values) :
    value.stored.length ≤ (values.flatMap Value.stored).length :=
  (List.sublist_flatten_of_mem (List.mem_map_of_mem h)).length_le

theorem decode_of_encode? {values : List Value} {payload : Bytes}
    (h : encode? values = some payload) (hvalues : ∀ value ∈ values, value.IsStorable)
    (hsize : 13 + 2 * payload.length < UInt64.size) :
    ∃ headerSize, decode payload =
      .ok ⟨headerSize, values.map Value.storedType, values.map Value.reread⟩ := by
  simp only [encode?, Option.ite_none_right_eq_some, Option.some.injEq] at h
  obtain ⟨hshort, rfl⟩ := h
  simp only [List.cons_append, List.length_cons, List.length_append] at hsize
  have hcodes : ∀ type ∈ values.map Value.storedType, .ofCode type.code = type := by
    intro type htype
    obtain ⟨value, hvalue, rfl⟩ := List.mem_map.mp htype
    have hle := length_stored_le hvalue
    exact Value.ofCode_storedType (hvalues value hvalue) (by omega)
  have htypes := readTypes_flatMap 1 (values.flatMap Value.stored) hcodes
  have hbody := readValues_flatMap values []
  rw [List.append_nil] at hbody
  simp only [List.flatMap_map] at htypes
  generalize (values.flatMap fun value ↦ Varint.encode value.storedType.code) = codes at *
  have hdeclared : (UInt64.ofNat (codes.length + 1)).toNat = codes.length + 1 :=
    UInt64.toNat_ofNat_of_lt' (show codes.length + 1 < UInt64.size by omega)
  have hread := Varint.read_ofNat_cons hshort (codes ++ values.flatMap Value.stored)
  refine ⟨_, decode_eq_ok hread ?_ ?_ ?_ ?_⟩
  · omega
  · rw [hdeclared, List.cons_append, List.length_cons, List.length_append]
    omega
  · rw [hdeclared, Nat.add_comm codes.length 1]
    exact htypes
  · rw [hdeclared, List.cons_append, List.drop_succ_cons, List.drop_left]
    exact hbody

end TableFile.Record
