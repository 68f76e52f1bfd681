import Mathlib.Algebra.Order.Ring.Nat
import TableFile.Varint

namespace TableFile.Varint

section Byte

variable {b : UInt8}

theorem ofNat_lt {n : Nat} (h : n < 128) : UInt8.ofNat n < 128 := by
  rw [UInt8.lt_iff_toNat_lt, UInt8.toNat_ofNat_of_lt' (h.trans (by decide))]
  exact h

theorem le_toNat_of_more (hb : ¬b < 128) : 128 ≤ b.toNat :=
  Nat.not_lt.mp fun h ↦ hb (UInt8.lt_iff_toNat_lt.mpr h)

theorem toNat_mod_of_last (hb : b < 128) : b.toNat % 128 = b.toNat :=
  Nat.mod_eq_of_lt (UInt8.lt_iff_toNat_lt.mp hb)

theorem toNat_mod_of_more (hb : ¬b < 128) : b.toNat % 128 = b.toNat - 128 := by
  have hhigh := le_toNat_of_more hb
  have hlt := b.toNat_lt
  omega

end Byte

@[simp] theorem length_groupsOf (count n : Nat) : (groupsOf count n).length = count := by
  induction count generalizing n with
  | zero => rfl
  | succ count ih => simp [groupsOf, ih]

theorem readFrom_last {groups value : Nat} {b : UInt8} (hb : b < 128) (rest : Bytes) :
    readFrom (groups + 1) value (b :: rest) = some (128 * value + b.toNat, 1) := by
  rw [readFrom, if_pos hb]

theorem readFrom_more {groups value n : Nat} (hn : n < 128) (rest : Bytes) :
    readFrom (groups + 1) value (.ofNat (128 + n) :: rest) =
      (readFrom groups (128 * value + n) rest).map fun r ↦ (r.1, r.2 + 1) := by
  have hb : (UInt8.ofNat (128 + n)).toNat = 128 + n :=
    UInt8.toNat_ofNat_of_lt' (show 128 + n < 256 by omega)
  have hmore : ¬UInt8.ofNat (128 + n) < 128 := by
    rw [UInt8.lt_iff_toNat_lt, hb]
    simp
  rw [readFrom, if_neg hmore, hb, Nat.add_sub_cancel_left]

/-- Groups hold the low bits of a number, and reading them shifts these in. -/
theorem readFrom_groupsOf (count groups n : Nat) (rest : Bytes) :
    readFrom (groups + count) 0 (groupsOf count n ++ rest) =
      (readFrom groups (n % 128 ^ count) rest).map fun r ↦ (r.1, r.2 + count) := by
  induction count generalizing groups n rest with
  | zero => simp [groupsOf, Nat.mod_one]
  | succ count ih =>
    have hvalue : 128 * (n / 128 % 128 ^ count) + n % 128 = n % 128 ^ (count + 1) := by
      rw [Nat.pow_succ', Nat.mod_mul, Nat.add_comm]
    rw [groupsOf, List.append_assoc, List.singleton_append,
      show groups + (count + 1) = groups + 1 + count by omega, ih,
      readFrom_more (Nat.mod_lt _ (by decide)), hvalue, Option.map_map]
    congr 1
    funext r
    simp only [Function.comp_apply, Nat.add_comm, Nat.add_left_comm]

theorem leastGroupsOf_eq (n : Nat) :
    ∃ count, leastGroupsOf n = groupsOf count n ∧ n < 128 ^ count ∧
      ∀ bound, n < 128 ^ bound → count ≤ bound := by
  fun_induction leastGroupsOf n with
  | case1 => exact ⟨0, rfl, by simp, fun _ _ ↦ Nat.zero_le _⟩
  | case2 n hn ih =>
    obtain ⟨count, heq, hlt, hleast⟩ := ih
    refine ⟨count + 1, by rw [heq, groupsOf], ?_, fun bound hbound ↦ ?_⟩
    · rw [Nat.pow_succ]
      omega
    · cases bound with
      | zero => omega
      | succ bound =>
        rw [Nat.pow_succ] at hbound
        have := hleast bound (by omega)
        omega

theorem read_encode (value : UInt64) (rest : Bytes) :
    read (encode value ++ rest) = .ok (value, (encode value).length) := by
  have hvalue : UInt64.ofNat value.toNat = value := UInt64.ofNat_toNat
  have hlt := value.toNat_lt
  unfold encode
  generalize value.toNat = n at hvalue hlt ⊢
  dsimp only
  split
  · next hn =>
    obtain ⟨count, heq, hcount, hleast⟩ := leastGroupsOf_eq (n / 128)
    have hle : count ≤ 7 := hleast 7 (by omega)
    have hb : (UInt8.ofNat (n % 128)).toNat = n % 128 :=
      UInt8.toNat_ofNat_of_lt' (show n % 128 < 256 by omega)
    have hlast : UInt8.ofNat (n % 128) < 128 := ofNat_lt (Nat.mod_lt _ (by decide))
    have hread := readFrom_groupsOf count (7 - count + 1) (n / 128) (.ofNat (n % 128) :: rest)
    rw [Nat.mod_eq_of_lt hcount, readFrom_last hlast, hb,
      show 7 - count + 1 + count = 8 by omega] at hread
    simp only [read, heq, List.append_assoc, List.singleton_append, hread, Option.map_some,
      Nat.div_add_mod, hvalue, List.length_append, length_groupsOf, List.length_singleton,
      Nat.add_comm 1]
  · have hb : (UInt8.ofNat (n % 256)).toNat = n % 256 :=
      UInt8.toNat_ofNat_of_lt' (show n % 256 < 256 by omega)
    have hread := readFrom_groupsOf 8 0 (n / 256) (.ofNat (n % 256) :: rest)
    have hhigh : n / 256 % 128 ^ 8 = n / 256 := Nat.mod_eq_of_lt (by omega)
    rw [hhigh, readFrom, hb] at hread
    simp only [read, List.append_assoc, List.singleton_append, hread, Option.map_some,
      Nat.div_add_mod, hvalue, List.length_append, length_groupsOf, List.length_singleton]

theorem read_cons {b : UInt8} (hb : b < 128) (rest : Bytes) :
    read (b :: rest) = .ok (.ofNat b.toNat, 1) := by
  rw [read, readFrom_last hb, Nat.mul_zero, Nat.zero_add]

theorem read_ofNat_cons {n : Nat} (h : n < 128) (data : Bytes) :
    read (.ofNat n :: data) = .ok (.ofNat n, 1) := by
  have hread := read_cons (ofNat_lt h) data
  rwa [UInt8.toNat_ofNat_of_lt' (h.trans (by decide))] at hread

theorem encode_ne_nil (value : UInt64) : encode value ≠ [] := by
  unfold encode
  dsimp only
  split <;> simp

end TableFile.Varint
