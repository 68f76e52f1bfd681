import TableFile.Proofs.Value.TwosComplement

namespace TableFile

namespace Bytes

theorem foldl_bigEndian (data : Bytes) (n : Nat) :
    data.foldl (fun n b ↦ 256 * n + b.toNat) n = n * 256 ^ data.length + bigEndian data := by
  induction data generalizing n with
  | nil => simp
  | cons b data ih =>
    have hdata : bigEndian (b :: data) = b.toNat * 256 ^ data.length + bigEndian data := by
      rw [bigEndian, List.foldl_cons, ih, Nat.mul_zero, Nat.zero_add]
    rw [List.foldl_cons, ih, hdata, List.length_cons, Nat.pow_succ', Nat.add_mul, Nat.add_assoc,
      Nat.mul_comm 256 n, Nat.mul_assoc]

theorem bigEndian_append (front data : Bytes) :
    bigEndian (front ++ data) = bigEndian front * 256 ^ data.length + bigEndian data := by
  rw [bigEndian, List.foldl_append]
  exact foldl_bigEndian data _

theorem bigEndian_replicate_zero (count : Nat) : bigEndian (List.replicate count 0) = 0 := by
  induction count with
  | zero => rfl
  | succ count ih => rw [List.replicate_succ', bigEndian_concat, ih]; rfl

theorem bigEndian_replicate_max (count : Nat) :
    bigEndian (List.replicate count 0xFF) + 1 = 256 ^ count := by
  induction count with
  | zero => rfl
  | succ count ih =>
    rw [List.replicate_succ', bigEndian_concat, Nat.pow_succ, ← ih]
    change 256 * _ + 255 + 1 = _
    omega

/-- The top bit says whether a number is in the upper half of those with as many bytes. -/
theorem le_bigEndian_iff (data : Bytes) :
    256 ^ data.length ≤ 2 * bigEndian data ↔ data.head?.any (0x80 ≤ ·) := by
  cases data with
  | nil => simp
  | cons b data =>
    have hlt := bigEndian_lt data
    have hvalue : bigEndian (b :: data) = b.toNat * 256 ^ data.length + bigEndian data := by
      rw [← List.singleton_append, bigEndian_append]
      simp [bigEndian]
    rw [hvalue, List.length_cons, Nat.pow_succ, List.head?_cons, Option.any_some,
      decide_eq_true_iff, UInt8.le_iff_toNat_le]
    change _ ↔ 128 ≤ b.toNat
    generalize 256 ^ data.length = power at hlt ⊢
    constructor
    · intro h
      by_contra hb
      have hle : (b.toNat + 1) * power ≤ 128 * power := Nat.mul_le_mul_right _ (by omega)
      rw [Nat.add_mul] at hle
      omega
    · intro hb
      have hle : 128 * power ≤ b.toNat * power := Nat.mul_le_mul_right _ hb
      omega

end Bytes

namespace Value

theorem signed_eq (body : Bytes) :
    signed body =
      if body.head?.any (0x80 ≤ ·) then .ofInt (body.bigEndian - (256 ^ body.length : Nat))
      else .ofInt body.bigEndian := by
  have hlt := Bytes.bigEndian_lt body
  have hmod : (body.bigEndian : Int) % (256 ^ body.length : Nat) = body.bigEndian :=
    Int.emod_eq_of_lt (Int.natCast_nonneg _) (Int.ofNat_lt.mpr hlt)
  have hhalf := Bytes.le_bigEndian_iff body
  rw [signed_eq_bmod, Int.bmod_def, hmod]
  by_cases h : 256 ^ body.length ≤ 2 * body.bigEndian
  · rw [if_pos (hhalf.mp h), if_neg (by omega)]
  · rw [if_neg (mt hhalf.mpr h), if_pos (by omega)]

/-- The eight bytes hold the number modulo `2 ^ 64`. -/
theorem toInt64_bigEndian_extended {body : Bytes} (h : body.length ≤ 8) :
    (UInt64.ofNat (Bytes.bigEndian (List.replicate (8 - body.length)
      (if body.head?.any (0x80 ≤ ·) then 0xFF else 0) ++ body))).toInt64 = signed body := by
  rw [UInt64.toInt64_ofNat', ← Int64.ofInt_eq_ofNat, Bytes.bigEndian_append, signed_eq]
  split
  · have hmax := Bytes.bigEndian_replicate_max (8 - body.length)
    have hpow : 256 ^ (8 - body.length) * 256 ^ body.length = 2 ^ 64 := by
      rw [← Nat.pow_add, Nat.sub_add_cancel h]
      rfl
    rw [← hmax, Nat.add_mul, Nat.one_mul] at hpow
    have hsum : ((Bytes.bigEndian (List.replicate (8 - body.length) 0xFF) * 256 ^ body.length +
        body.bigEndian : Nat) : Int) =
          (body.bigEndian - (256 ^ body.length : Nat) : Int) + (2 ^ 64 : Nat) := by
      omega
    rw [hsum, Int64.ofInt_add]
    exact Int64.add_zero _
  · rw [Bytes.bigEndian_replicate_zero, Nat.zero_mul, Nat.zero_add]

end Value

end TableFile
