import Mathlib.Algebra.Order.Ring.Nat
import TableFile.Bytes

namespace TableFile.Bytes

theorem bigEndian_ofNat (width n : Nat) : bigEndian (ofNat width n) = n % 256 ^ width := by
  induction width generalizing n with
  | zero => simp [ofNat, Nat.mod_one]
  | succ width ih =>
    rw [ofNat, bigEndian_concat, ih, Nat.pow_succ, Nat.mul_comm (256 ^ width), Nat.mod_mul]
    simp [Nat.add_comm]

theorem bigEndian_ofNat_of_lt (width : Nat) {n : Nat} (h : n < 256 ^ width) :
    bigEndian (ofNat width n) = n := by
  rw [bigEndian_ofNat, Nat.mod_eq_of_lt h]

theorem foldl_bigEndian_lt (data : Bytes) (n : Nat) :
    data.foldl (fun n b ↦ 256 * n + b.toNat) n < (n + 1) * 256 ^ data.length := by
  induction data generalizing n with
  | nil => simp
  | cons b data ih =>
    have hb := b.toNat_lt
    calc _ < (256 * n + b.toNat + 1) * 256 ^ data.length := ih _
      _ ≤ (n + 1) * 256 * 256 ^ data.length := Nat.mul_le_mul_right _ (by omega)
      _ = _ := by rw [List.length_cons, Nat.pow_succ, Nat.mul_assoc, Nat.mul_comm 256]

theorem bigEndian_lt (data : Bytes) : bigEndian data < 256 ^ data.length := by
  simpa [bigEndian] using foldl_bigEndian_lt data 0

end TableFile.Bytes
