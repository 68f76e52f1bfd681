namespace TableFile.Decimal

def digitsValue (digits : List Char) : Nat :=
  digits.foldl (fun n c ↦ 10 * n + (c.toNat - '0'.toNat)) 0

def unsigned? (digits : List Char) : Option Nat :=
  if digits ≠ [] ∧ digits.all Char.isDigit then some (digitsValue digits) else none

def integer? (s : List Char) : Option Int64 := do
  let n ← match s with
    | '-' :: digits => (unsigned? digits).map fun n ↦ -(n : Int)
    | '+' :: digits => (unsigned? digits).map fun n ↦ (n : Int)
    | digits => (unsigned? digits).map fun n ↦ (n : Int)
  if Int64.minValue.toInt ≤ n ∧ n ≤ Int64.maxValue.toInt then some (.ofInt n) else none

end TableFile.Decimal
