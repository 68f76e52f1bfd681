namespace TableFile.Text

/-- Ascending code points, at each of which membership changes: a character belongs when an odd
number of them are not above it. -/
structure CharSet where
  points : List Nat

def CharSet.contains (s : CharSet) (c : Char) : Bool :=
  (s.points.takeWhile (· ≤ c.toNat)).length % 2 == 1

end TableFile.Text
