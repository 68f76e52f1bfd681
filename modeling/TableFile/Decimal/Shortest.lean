namespace TableFile.Decimal

structure Scaled where
  digits : Nat
  exponent : Int

/-- A positive number `value / unit`, and the bounds `low / unit` and `high / unit` of the numbers
that round to it. -/
structure Interval where
  low : Nat
  value : Nat
  high : Nat
  unit : Nat
  closed : Bool

namespace Interval

/-- The numbers that round to `mantissa * 2 ^ exponent`. The gap below is half as wide when the
mantissa is the least of its binade; the bounds themselves round to the even mantissa. -/
def around (mantissa : Nat) (exponent : Int) (narrow : Bool) : Interval :=
  let up := 1 <<< (exponent - 2).toNat
  let down := 1 <<< (2 - exponent).toNat
  { low := (4 * mantissa - if narrow then 1 else 2) * up
    value := 4 * mantissa * up
    high := (4 * mantissa + 2) * up
    unit := down
    closed := mantissa % 2 == 0 }

def contains (w : Interval) (n : Nat) : Bool :=
  if w.closed then w.low ≤ n && n ≤ w.high else w.low < n && n < w.high

def scale (w : Interval) (k : Int) : Interval :=
  let times := Nat.pow 10 (-k).toNat
  { w with
    low := w.low * times
    value := w.value * times
    high := w.high * times
    unit := w.unit * Nat.pow 10 k.toNat }

/-- The whole number in the interval that is nearest to its number, the upper one of two equally
near. No more than the two neighbours need a look: if any whole number lies inside, so does one
of them. -/
def nearestWhole? (w : Interval) : Option Nat :=
  let below := w.value / w.unit
  match w.contains (below * w.unit), w.contains ((below + 1) * w.unit) with
  | true, true =>
    if 2 * w.value < (2 * below + 1) * w.unit then some below else some (below + 1)
  | true, false => some below
  | false, true => some (below + 1)
  | false, false => none

def magnitude (w : Interval) : Int :=
  let whole := w.value / w.unit
  if whole = 0 then
    let places := (List.range (w.unit.repr.length + 1)).find? fun j ↦
      w.unit ≤ w.value * Nat.pow 10 j
    1 - (places.getD 0 : Nat)
  else whole.repr.length

/-- Of the shortest decimals in the interval the nearest. Seventeen digits are always enough. -/
def shortest (w : Interval) : Scaled :=
  let k := w.magnitude
  let found := (List.range 18).findSome? fun (n : Nat) ↦
    (w.scale (k - n)).nearestWhole?.map fun digits ↦ (⟨digits, k - n⟩ : Scaled)
  found.getD ⟨0, 0⟩

end Interval

end TableFile.Decimal
