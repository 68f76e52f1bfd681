import TableFile.Proofs.Varint.Extent

namespace TableFile.Varint

/-- Eight bytes or fewer hold seven bits each, and nine hold any number. -/
theorem length_encode_le {value : UInt64} {size : Nat} (hpos : 0 < size)
    (h : size ≤ 8 → value.toNat < 128 ^ size) : (encode value).length ≤ size := by
  obtain ⟨size, rfl⟩ := Nat.exists_eq_succ_of_ne_zero hpos.ne'
  unfold encode
  generalize value.toNat = n at h ⊢
  dsimp only
  split
  · obtain ⟨count, heq, -, hleast⟩ := leastGroupsOf_eq (n / 128)
    rw [heq, List.length_append, length_groupsOf]
    refine Nat.succ_le_succ ?_
    by_cases hsize : size + 1 ≤ 8
    · have hn := h hsize
      rw [Nat.pow_succ] at hn
      exact hleast size (by omega)
    · have hcount : count ≤ 8 := hleast 8 (by omega)
      omega
  · next hn =>
    have hsize : 8 < size + 1 := by
      by_contra hsize
      have hle : size + 1 ≤ 8 := Nat.le_of_not_lt hsize
      exact hn ((h hle).trans_le (Nat.pow_le_pow_right (by decide) hle))
    rw [List.length_append, length_groupsOf]
    exact hsize

theorem length_encode_le_of_read {data : Bytes} {value : UInt64} {size : Nat}
    (h : read data = .ok (value, size)) : (encode value).length ≤ size := by
  have hread := read_eq_ok_iff.mp h
  refine length_encode_le (readFrom_size_pos hread) fun hsize ↦ ?_
  simpa using readFrom_lt_of_size_le hread hsize

theorem take_eq_encode {data : Bytes} {value : UInt64}
    (h : read data = .ok (value, (encode value).length)) :
    data.take (encode value).length = encode value := by
  have hencode := read_encode value []
  have htake := (readFrom_injective (read_eq_ok_iff.mp h) (read_eq_ok_iff.mp hencode)).2
  rw [htake, List.append_nil, List.take_length]

/-- A number that is written is read back wherever it stands. No other bytes read as the number
unless they are more. -/
theorem encode_shortest (value : UInt64) :
    (∀ front rest, readAt (front ++ encode value ++ rest) front.length =
      .ok (value, (encode value).length)) ∧
    ∀ data offset size, readAt data offset = .ok (value, size) →
      (encode value).length ≤ size ∧
        (size = (encode value).length → (data.drop offset).take size = encode value) := by
  constructor
  · intro front rest
    rw [readAt, List.append_assoc, List.drop_left]
    exact read_encode value rest
  · intro data offset size h
    refine ⟨length_encode_le_of_read h, ?_⟩
    rintro rfl
    exact take_eq_encode h

/-- The number 300 in three bytes, of which the first holds no bits, and in its shortest form. -/
theorem encode_shortest_threeHundred :
    readAt [7, 0x80, 0x82, 0x2C, 9] 1 = .ok (300, 3) ∧ (encode 300).length ≤ 3 ∧
    readAt [7, 0x82, 0x2C, 9] 1 = .ok (300, 2) ∧ 2 = (encode 300).length ∧
      [0x82, 0x2C] = encode 300 := by
  have hlong : readAt [7, 0x80, 0x82, 0x2C, 9] 1 = .ok (300, 3) := rfl
  have hshort : readAt [7, 0x82, 0x2C, 9] 1 = .ok (300, 2) := rfl
  have hlength : 2 = (encode 300).length := by decide +kernel
  exact ⟨hlong, ((encode_shortest 300).2 _ _ _ hlong).1, hshort, hlength,
    ((encode_shortest 300).2 _ _ _ hshort).2 hlength⟩

end TableFile.Varint
