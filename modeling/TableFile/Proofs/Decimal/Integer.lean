import TableFile.Decimal.Integer

namespace TableFile.Decimal

theorem unsigned?_toDigits (n : Nat) : unsigned? (Nat.toDigits 10 n) = some n := by
  have hall : (Nat.toDigits 10 n).all Char.isDigit :=
    List.all_eq_true.mpr fun c hc ↦ Nat.isDigit_of_mem_toDigits (by decide) (by decide) hc
  rw [unsigned?, if_pos ⟨Nat.toDigits_ne_nil, hall⟩, digitsValue, ← Nat.ofDigitChars_eq_foldl,
    Nat.ofDigitChars_ten_toDigits]

theorem toDigits_ne_cons {c : Char} (hc : c.isDigit = false) (n : Nat) (s : List Char) :
    Nat.toDigits 10 n ≠ c :: s := by
  intro h
  have hdigit : c.isDigit :=
    Nat.isDigit_of_mem_toDigits (by decide) (by decide) (h ▸ List.mem_cons_self)
  simp [hc] at hdigit

theorem integer?_toString (n : Int64) : integer? (toString n.toInt).toList = some n := by
  have hrange : Int64.minValue.toInt ≤ n.toInt ∧ n.toInt ≤ Int64.maxValue.toInt :=
    ⟨n.minValue_le_toInt, n.toInt_le⟩
  cases hn : n.toInt with
  | ofNat m =>
    have htext : (toString (Int.ofNat m)).toList = Nat.toDigits 10 m := Nat.toList_repr
    have hm : (m : Int) = n.toInt := hn.symm
    rw [htext, integer?]
    · simp only [unsigned?_toDigits, Option.bind_eq_bind, Option.bind_some, Option.pure_def,
        Option.map_some, hm, if_pos hrange, Int64.ofInt_toInt]
    · exact fun s ↦ toDigits_ne_cons rfl m s
    · exact fun s ↦ toDigits_ne_cons rfl m s
  | negSucc m =>
    have htext : (toString (Int.negSucc m)).toList = '-' :: Nat.toDigits 10 (m + 1) := by
      rw [show toString (Int.negSucc m) = "-" ++ (m + 1).repr from rfl, String.toList_append,
        Nat.toList_repr]
      rfl
    have hm : -((m + 1 : Nat) : Int) = n.toInt := hn.symm
    simp only [htext, integer?, unsigned?_toDigits, Option.bind_eq_bind, Option.bind_some,
      Option.pure_def, Option.map_some, hm, if_pos hrange, Int64.ofInt_toInt]

end TableFile.Decimal
