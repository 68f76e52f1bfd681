namespace TableFile

abbrev Bytes := List UInt8

namespace Bytes

def bigEndian (data : Bytes) : Nat :=
  data.foldl (fun n b ↦ 256 * n + b.toNat) 0

/-- The last `width` base-256 digits of `n`, most significant first. -/
def ofNat : (width : Nat) → (n : Nat) → Bytes
  | 0, _ => []
  | width + 1, n => ofNat width (n / 256) ++ [.ofNat n]

def splitAt? (n : Nat) (data : Bytes) : Option (Bytes × Bytes) :=
  let front := data.take n
  if front.length = n then some (front, data.drop n) else none

theorem splitAt?_eq_some_iff {n : Nat} {data front rest : Bytes} :
    splitAt? n data = some (front, rest) ↔ front.length = n ∧ data = front ++ rest := by
  simp only [splitAt?]
  constructor
  · intro h
    split at h
    · next hn =>
      obtain ⟨rfl, rfl⟩ := Prod.mk.inj (Option.some.inj h)
      exact ⟨hn, (List.take_append_drop n data).symm⟩
    · exact absurd h (by simp)
  · rintro ⟨rfl, rfl⟩
    simp

theorem splitAt?_eq_none_iff {n : Nat} {data : Bytes} :
    splitAt? n data = none ↔ data.length < n := by
  simp only [splitAt?, List.length_take]
  split <;> simp <;> omega

@[simp] theorem bigEndian_nil : bigEndian [] = 0 := rfl

theorem bigEndian_concat (data : Bytes) (b : UInt8) :
    bigEndian (data ++ [b]) = 256 * bigEndian data + b.toNat := by
  simp [bigEndian]

@[simp] theorem length_ofNat (width n : Nat) : (ofNat width n).length = width := by
  induction width generalizing n with
  | zero => rfl
  | succ width ih => simp [ofNat, ih]

end Bytes

end TableFile
