import TableFile.Bytes.Lemmas
import TableFile.Page.Header
import TableFile.Proofs.Except

namespace TableFile.Page

theorem Kind.le_headerSize (kind : Kind) : 8 ≤ kind.headerSize := by
  cases kind <;> decide

theorem Kind.headerSize_le (kind : Kind) : kind.headerSize ≤ 12 := by
  cases kind <;> decide

namespace Header

theorem length_encode (header : Header) : header.encode.length = header.size := by
  unfold encode size Kind.headerSize
  cases header.kind <;> simp [Kind.isInterior]

theorem decode_eq_ok {data : Bytes} {kind : Kind} (h : data[0]? = some kind.tag)
    (hsize : kind.headerSize ≤ data.length) :
    decode data = .ok {
      kind
      firstFreeblock := .ofNat (field data 1 2)
      cellCount := .ofNat (field data 3 2)
      contentStart := .ofNat (field data 5 2)
      fragmentedBytes := .ofNat (field data 7 1)
      rightMost := if kind.isInterior then some (.ofNat (field data 8 4)) else none } := by
  cases data with
  | nil => simp at h
  | cons tag data =>
    obtain rfl : tag = kind.tag := by simpa using h
    simp only [decode, Kind.ofTag_tag, Except.ok_bind, if_neg (Nat.not_lt.mpr hsize)]
    rfl

theorem tag_of_decode {data : Bytes} {header : Header} (h : decode data = .ok header) :
    data[0]? = some header.kind.tag ∧ header.size ≤ data.length := by
  cases data with
  | nil => cases h
  | cons tag data =>
    obtain ⟨kind, hkind, h⟩ := Except.bind_eq_ok_iff.mp h
    obtain rfl := Kind.ofTag_eq_ok_iff.mp hkind
    dsimp only at h
    by_cases hshort : (kind.tag :: data).length < kind.headerSize
    · rw [if_pos hshort] at h
      cases h
    · rw [if_neg hshort] at h
      obtain rfl := Except.ok.inj h
      exact ⟨rfl, Nat.not_lt.mp hshort⟩

theorem decode_encode {header : Header} (h : header.rightMost.isSome = header.kind.isInterior)
    (rest : Bytes) : decode (header.encode ++ rest) = .ok header := by
  have hlength : header.kind.headerSize ≤ (header.encode ++ rest).length := by
    rw [List.length_append, length_encode]
    exact Nat.le_add_right _ _
  rw [decode_eq_ok rfl hlength]
  have hfreeblock : field (header.encode ++ rest) 1 2 =
      header.firstFreeblock.toNat := Bytes.bigEndian_ofNat_of_lt 2 header.firstFreeblock.toNat_lt
  have hcount : field (header.encode ++ rest) 3 2 =
      header.cellCount.toNat := Bytes.bigEndian_ofNat_of_lt 2 header.cellCount.toNat_lt
  have hcontent : field (header.encode ++ rest) 5 2 =
      header.contentStart.toNat := Bytes.bigEndian_ofNat_of_lt 2 header.contentStart.toNat_lt
  have hfragmented : field (header.encode ++ rest) 7 1 = header.fragmentedBytes.toNat :=
    Nat.zero_add _
  have hright : (if header.kind.isInterior then
      some (UInt32.ofNat (field (header.encode ++ rest) 8 4)) else none) = header.rightMost := by
    obtain ⟨kind, _, _, _, _, rightMost⟩ := header
    cases kind <;> cases rightMost
    case indexInterior.some child | tableInterior.some child =>
      exact congrArg some ((congrArg UInt32.ofNat
        (Bytes.bigEndian_ofNat_of_lt 4 child.toNat_lt)).trans UInt32.ofNat_toNat)
    case indexLeaf.none | tableLeaf.none => rfl
    all_goals cases h
  rw [hfreeblock, hcount, hcontent, hfragmented, hright, UInt16.ofNat_toNat, UInt16.ofNat_toNat,
    UInt16.ofNat_toNat, UInt8.ofNat_toNat]

end Header

end TableFile.Page
