import TableFile.Proofs.Varint

namespace TableFile.Varint

theorem readFrom_zero_eq_some {value n size : Nat} {data : Bytes}
    (h : readFrom 0 value data = some (n, size)) :
    ∃ b rest, data = b :: rest ∧ n = 256 * value + b.toNat ∧ size = 1 := by
  cases data with
  | nil => cases h
  | cons b rest =>
    obtain ⟨rfl, rfl⟩ := Prod.mk.inj (Option.some.inj h)
    exact ⟨b, rest, rfl, rfl, rfl⟩

/-- A byte with its top bit clear is the last, and any other is read on from. -/
theorem readFrom_succ_eq_some {groups value n size : Nat} {data : Bytes}
    (h : readFrom (groups + 1) value data = some (n, size)) :
    ∃ b rest, data = b :: rest ∧
      (b.toNat < 128 ∧ n = 128 * value + b.toNat ∧ size = 1 ∨
        128 ≤ b.toNat ∧ ∃ size', size = size' + 1 ∧
          readFrom groups (128 * value + (b.toNat - 128)) rest = some (n, size')) := by
  cases data with
  | nil => cases h
  | cons b rest =>
    refine ⟨b, rest, rfl, ?_⟩
    by_cases hb : b < 128
    · rw [readFrom, if_pos hb] at h
      obtain ⟨rfl, rfl⟩ := Prod.mk.inj (Option.some.inj h)
      exact .inl ⟨UInt8.lt_iff_toNat_lt.mp hb, rfl, rfl⟩
    · rw [readFrom, if_neg hb] at h
      obtain ⟨⟨n', size'⟩, hrest, hn⟩ := Option.map_eq_some_iff.mp h
      obtain ⟨rfl, rfl⟩ := Prod.mk.inj hn
      exact .inr ⟨le_toNat_of_more hb, size', rfl, hrest⟩

theorem readFrom_local {groups value n size : Nat} {data : Bytes}
    (h : readFrom groups value data = some (n, size)) :
    size ≤ data.length ∧
      ∀ rest, readFrom groups value (data.take size ++ rest) = some (n, size) := by
  induction groups generalizing value size data with
  | zero =>
    obtain ⟨b, rest, rfl, rfl, rfl⟩ := readFrom_zero_eq_some h
    exact ⟨Nat.le_add_left _ _, fun _ ↦ rfl⟩
  | succ groups ih =>
    obtain ⟨b, rest, rfl, ⟨hb, rfl, rfl⟩ | ⟨hb, size', rfl, hrest⟩⟩ := readFrom_succ_eq_some h
    · exact ⟨Nat.le_add_left _ _, fun rest ↦ readFrom_last (UInt8.lt_iff_toNat_lt.mpr hb) rest⟩
    · obtain ⟨hlength, hread⟩ := ih hrest
      have hmore : ¬b < 128 := fun h ↦ Nat.not_lt.mpr hb (UInt8.lt_iff_toNat_lt.mp h)
      refine ⟨Nat.succ_le_succ hlength, fun rest' ↦ ?_⟩
      rw [List.take_succ_cons, List.cons_append, readFrom, if_neg hmore, hread]
      rfl

/-- The bits read before and the bytes read on can be told from the number and its size. -/
theorem readFrom_injective {groups value value' n size : Nat} {data data' : Bytes}
    (h : readFrom groups value data = some (n, size))
    (h' : readFrom groups value' data' = some (n, size)) :
    value = value' ∧ data.take size = data'.take size := by
  induction groups generalizing value value' size data data' with
  | zero =>
    obtain ⟨b, rest, rfl, hn, rfl⟩ := readFrom_zero_eq_some h
    obtain ⟨b', rest', rfl, hn', -⟩ := readFrom_zero_eq_some h'
    have hb := b.toNat_lt
    have hb' := b'.toNat_lt
    obtain rfl : b = b' := UInt8.toNat_inj.mp (by omega)
    exact ⟨by omega, rfl⟩
  | succ groups ih =>
    obtain ⟨b, rest, rfl, hb⟩ := readFrom_succ_eq_some h
    obtain ⟨b', rest', rfl, hb'⟩ := readFrom_succ_eq_some h'
    have hlt := b.toNat_lt
    have hlt' := b'.toNat_lt
    obtain ⟨hlast, hn, rfl⟩ | ⟨hmore, size₁, rfl, hrest⟩ := hb
    · obtain ⟨hlast', hn', -⟩ | ⟨-, size₂, hsize, hrest'⟩ := hb'
      · obtain rfl : b = b' := UInt8.toNat_inj.mp (by omega)
        exact ⟨by omega, rfl⟩
      · have := readFrom_size_pos hrest'
        omega
    · obtain ⟨-, -, hsize⟩ | ⟨hmore', size₂, hsize, hrest'⟩ := hb'
      · have := readFrom_size_pos hrest
        omega
      · obtain rfl : size₁ = size₂ := Nat.succ.inj hsize
        obtain ⟨hvalue, htake⟩ := ih hrest hrest'
        obtain rfl : b = b' := UInt8.toNat_inj.mp (by omega)
        exact ⟨by omega, congrArg (b :: ·) htake⟩

theorem readFrom_lt {groups value n size : Nat} {data : Bytes}
    (h : readFrom groups value data = some (n, size)) :
    n < 256 * (value + 1) * 128 ^ groups := by
  induction groups generalizing value size data with
  | zero =>
    obtain ⟨b, rest, rfl, rfl, -⟩ := readFrom_zero_eq_some h
    have hb := b.toNat_lt
    omega
  | succ groups ih =>
    obtain ⟨b, rest, rfl, hb⟩ := readFrom_succ_eq_some h
    have hlt := b.toNat_lt
    have hpow : 0 < 128 ^ groups := Nat.pow_pos (by decide)
    rw [Nat.pow_succ', ← Nat.mul_assoc, Nat.mul_right_comm 256]
    obtain ⟨-, rfl, -⟩ | ⟨-, size', -, hrest⟩ := hb
    · calc 128 * value + b.toNat < 256 * 128 * (value + 1) := by omega
        _ ≤ _ := Nat.le_mul_of_pos_right _ hpow
    · refine (ih hrest).trans_le (Nat.mul_le_mul_right _ ?_)
      omega

/-- Short of a ninth byte, each byte holds seven bits. -/
theorem readFrom_lt_of_size_le {groups value n size : Nat} {data : Bytes}
    (h : readFrom groups value data = some (n, size)) (hsize : size ≤ groups) :
    n < (value + 1) * 128 ^ size := by
  induction groups generalizing value size data with
  | zero =>
    obtain ⟨-, -, -, -, rfl⟩ := readFrom_zero_eq_some h
    omega
  | succ groups ih =>
    obtain ⟨b, rest, rfl, hb⟩ := readFrom_succ_eq_some h
    have hlt := b.toNat_lt
    obtain ⟨hlast, rfl, rfl⟩ | ⟨-, size', rfl, hrest⟩ := hb
    · omega
    · have hle : 128 * value + (b.toNat - 128) + 1 ≤ (value + 1) * 128 := by omega
      calc n < (128 * value + (b.toNat - 128) + 1) * 128 ^ size' := ih hrest (by omega)
        _ ≤ (value + 1) * 128 * 128 ^ size' := Nat.mul_le_mul_right _ hle
        _ = _ := by rw [Nat.pow_succ', Nat.mul_assoc]

theorem read_eq_ok_iff {data : Bytes} {value : UInt64} {size : Nat} :
    read data = .ok (value, size) ↔ readFrom 8 0 data = some (value.toNat, size) := by
  rw [read]
  constructor
  · intro h
    split at h
    · next n size' hread =>
      obtain ⟨rfl, rfl⟩ := Prod.mk.inj (Except.ok.inj h)
      have hn : n < 256 * (0 + 1) * 128 ^ 8 := readFrom_lt hread
      rw [hread, UInt64.toNat_ofNat_of_lt' (show n < UInt64.size from hn)]
    · cases h
  · intro h
    rw [h]
    simp only [UInt64.ofNat_toNat]

theorem read_local {data : Bytes} {value : UInt64} {size : Nat}
    (h : read data = .ok (value, size)) :
    size ≤ data.length ∧ ∀ rest, read (data.take size ++ rest) = .ok (value, size) := by
  obtain ⟨hlength, hread⟩ := readFrom_local (read_eq_ok_iff.mp h)
  exact ⟨hlength, fun rest ↦ read_eq_ok_iff.mpr (hread rest)⟩

end TableFile.Varint
