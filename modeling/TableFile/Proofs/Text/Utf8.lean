import Mathlib.Tactic.SplitIfs
import TableFile.Text.Utf8

namespace TableFile.Text

namespace Utf8

theorem lead?_ofNat {n : Nat} (hn : n < 256) :
    lead? (.ofNat n) =
      if n < 0x80 then some ⟨n, 0, 0x80, 0xBF⟩
      else if n < 0xC2 then none
      else if n < 0xE0 then some ⟨n - 0xC0, 1, 0x80, 0xBF⟩
      else if n = 0xE0 then some ⟨0, 2, 0xA0, 0xBF⟩
      else if n = 0xED then some ⟨0xD, 2, 0x80, 0x9F⟩
      else if n < 0xF0 then some ⟨n - 0xE0, 2, 0x80, 0xBF⟩
      else if n = 0xF0 then some ⟨0, 3, 0x90, 0xBF⟩
      else if n < 0xF4 then some ⟨n - 0xF0, 3, 0x80, 0xBF⟩
      else if n = 0xF4 then some ⟨4, 3, 0x80, 0x8F⟩
      else none := by
  have hb : (UInt8.ofNat n).toNat = n := UInt8.toNat_ofNat_of_lt' hn
  simp only [lead?, UInt8.lt_iff_toNat_lt, ← UInt8.toNat_inj, hb]
  rfl

theorem follow_cons {count bits n : Nat} {least most : UInt8} {data : Bytes} (hn : n < 64)
    (hleast : least.toNat ≤ n + 0x80) (hmost : n + 0x80 ≤ most.toNat) :
    follow (count + 1) least most bits (.ofNat (n + 0x80) :: data) =
      follow count 0x80 0xBF (64 * bits + n) data := by
  have hb : (UInt8.ofNat (n + 0x80)).toNat = n + 0x80 :=
    UInt8.toNat_ofNat_of_lt' (show n + 0x80 < 256 by omega)
  have hrange : least ≤ .ofNat (n + 0x80) ∧ .ofNat (n + 0x80) ≤ most := by
    simp only [UInt8.le_iff_toNat_le, hb]
    exact ⟨hleast, hmost⟩
  rw [follow, if_pos hrange, hb, Nat.add_sub_cancel]

theorem follow_tail {count bits n : Nat} {data : Bytes} (hn : n < 64) :
    follow (count + 1) 0x80 0xBF bits (.ofNat (n + 0x80) :: data) =
      follow count 0x80 0xBF (64 * bits + n) data :=
  follow_cons hn (Nat.le_add_left _ _) (show n + 0x80 ≤ 0xBF by omega)

theorem next_three {x y z : Nat} (hx : x < 16) (hy : y < 64) (hz : z < 64)
    (hleast : x = 0 → 0x20 ≤ y) (hmost : x = 0xD → y < 0x20) (rest : Bytes) :
    next (.ofNat (x + 0xE0)) (.ofNat (y + 0x80) :: .ofNat (z + 0x80) :: rest) =
      (.ofNat (64 * (64 * x + y) + z), rest) := by
  rw [next, lead?_ofNat (by omega), if_neg (by omega), if_neg (by omega), if_neg (by omega)]
  split_ifs with h₁ h₂ h₃
  · obtain rfl : x = 0 := by omega
    have hleast : (0xA0 : UInt8).toNat ≤ y + 0x80 := show 0xA0 ≤ y + 0x80 by omega
    have hmost : y + 0x80 ≤ (0xBF : UInt8).toNat := show y + 0x80 ≤ 0xBF by omega
    dsimp only
    rw [follow_cons hy hleast hmost, follow_tail hz, follow]
  · obtain rfl : x = 0xD := by omega
    have hleast : (0x80 : UInt8).toNat ≤ y + 0x80 := Nat.le_add_left _ _
    have hmost : y + 0x80 ≤ (0x9F : UInt8).toNat := show y + 0x80 ≤ 0x9F by omega
    dsimp only
    rw [follow_cons hy hleast hmost, follow_tail hz, follow]
  · dsimp only
    rw [follow_tail hy, follow_tail hz, follow, Nat.add_sub_cancel]
  all_goals omega

theorem next_four {w x y z : Nat} (hw : w < 5) (hx : x < 64) (hy : y < 64) (hz : z < 64)
    (hleast : w = 0 → 0x10 ≤ x) (hmost : w = 4 → x < 0x10) (rest : Bytes) :
    next (.ofNat (w + 0xF0))
        (.ofNat (x + 0x80) :: .ofNat (y + 0x80) :: .ofNat (z + 0x80) :: rest) =
      (.ofNat (64 * (64 * (64 * w + x) + y) + z), rest) := by
  rw [next, lead?_ofNat (by omega), if_neg (by omega), if_neg (by omega), if_neg (by omega),
    if_neg (by omega), if_neg (by omega), if_neg (by omega)]
  split_ifs with h₁ h₂ h₃
  · obtain rfl : w = 0 := by omega
    have hleast : (0x90 : UInt8).toNat ≤ x + 0x80 := show 0x90 ≤ x + 0x80 by omega
    have hmost : x + 0x80 ≤ (0xBF : UInt8).toNat := show x + 0x80 ≤ 0xBF by omega
    dsimp only
    rw [follow_cons hx hleast hmost, follow_tail hy, follow_tail hz, follow]
  · dsimp only
    rw [follow_tail hx, follow_tail hy, follow_tail hz, follow, Nat.add_sub_cancel]
  · obtain rfl : w = 4 := by omega
    have hleast : (0x80 : UInt8).toNat ≤ x + 0x80 := Nat.le_add_left _ _
    have hmost : x + 0x80 ≤ (0x8F : UInt8).toNat := show x + 0x80 ≤ 0x8F by omega
    dsimp only
    rw [follow_cons hx hleast hmost, follow_tail hy, follow_tail hz, follow]
  · omega

/-- The bytes of a character spell it, whatever follows them. -/
theorem exists_next (c : Char) :
    ∃ b data, String.utf8EncodeChar c = b :: data ∧
      ∀ rest, next b (data ++ rest) = (c, rest) := by
  have hchar : Char.ofNat c.val.toNat = c := Char.ofNat_toNat c
  have hvalid : c.val.toNat < 0xD800 ∨ 0xDFFF < c.val.toNat ∧ c.val.toNat < 0x110000 := c.valid
  unfold String.utf8EncodeChar
  generalize c.val.toNat = n at hchar hvalid ⊢
  dsimp only
  split_ifs with h₁ h₂ h₃
  · refine ⟨_, _, rfl, fun rest ↦ ?_⟩
    rw [next, lead?_ofNat (by omega), if_pos (by omega)]
    simp only [follow, List.nil_append, hchar]
  · refine ⟨_, _, rfl, fun rest ↦ ?_⟩
    have hn : 64 * (n / 64) + n % 64 = n := Nat.div_add_mod n 64
    rw [next, lead?_ofNat (by omega), if_neg (by omega), if_neg (by omega), if_pos (by omega),
      Nat.add_sub_cancel, Nat.mod_eq_of_lt (by omega : n / 64 < 32)]
    simp only [List.cons_append, List.nil_append]
    rw [follow_tail (Nat.mod_lt _ (by decide)), hn, follow, hchar]
  · refine ⟨_, _, rfl, fun rest ↦ ?_⟩
    have hn : 64 * (64 * (n / 4096 % 16) + n / 64 % 64) + n % 64 = n := by omega
    simp only [List.cons_append, List.nil_append]
    rw [next_three (by omega) (by omega) (by omega) (by omega) (by omega), hn, hchar]
  · refine ⟨_, _, rfl, fun rest ↦ ?_⟩
    have hn : 64 * (64 * (64 * (n / 262144 % 8) + n / 4096 % 64) + n / 64 % 64) + n % 64 = n := by
      omega
    simp only [List.cons_append, List.nil_append]
    rw [next_four (by omega) (by omega) (by omega) (by omega) (by omega) (by omega), hn, hchar]

theorem readOnto_flatMap (s read : List Char) :
    readOnto read (s.flatMap String.utf8EncodeChar) = s.reverse ++ read := by
  induction s generalizing read with
  | nil => simp [readOnto]
  | cons c s ih =>
    obtain ⟨b, data, hbytes, hnext⟩ := exists_next c
    rw [List.flatMap_cons, hbytes, List.cons_append, readOnto, hnext, ih]
    simp

end Utf8

theorem ofUtf8_toUtf8 (s : String) : ofUtf8 (toUtf8 s) = s := by
  rw [ofUtf8, toUtf8, Utf8.readOnto_flatMap, List.append_nil, List.reverse_reverse,
    String.ofList_toList]

def IsUtf8 (data : Bytes) : Prop :=
  ∃ s, toUtf8 s = data

theorem IsUtf8.toUtf8_ofUtf8 {data : Bytes} (h : IsUtf8 data) : toUtf8 (ofUtf8 data) = data := by
  obtain ⟨s, rfl⟩ := h
  rw [Text.ofUtf8_toUtf8]

end TableFile.Text
