import TableFile.Bytes

namespace TableFile.Text.Utf8

def replacement : Char := '\uFFFD'

/-- What a first byte promises: the bits it holds itself, how many bytes follow, and the range in
which the first of those has to lie. -/
structure Lead where
  bits : Nat
  count : Nat
  least : UInt8
  most : UInt8

/-- The narrowed ranges shut out overlong forms, surrogates and numbers above 0x10FFFF. -/
def lead? (b : UInt8) : Option Lead :=
  if b < 0x80 then some ⟨b.toNat, 0, 0x80, 0xBF⟩
  else if b < 0xC2 then none
  else if b < 0xE0 then some ⟨b.toNat - 0xC0, 1, 0x80, 0xBF⟩
  else if b = 0xE0 then some ⟨0, 2, 0xA0, 0xBF⟩
  else if b = 0xED then some ⟨0xD, 2, 0x80, 0x9F⟩
  else if b < 0xF0 then some ⟨b.toNat - 0xE0, 2, 0x80, 0xBF⟩
  else if b = 0xF0 then some ⟨0, 3, 0x90, 0xBF⟩
  else if b < 0xF4 then some ⟨b.toNat - 0xF0, 3, 0x80, 0xBF⟩
  else if b = 0xF4 then some ⟨4, 3, 0x80, 0x8F⟩
  else none

/-- Reads `count` further bytes of a character; the rest starts at the first byte that cannot
belong to it. -/
def follow : (count : Nat) → (least most : UInt8) → (bits : Nat) → Bytes → Char × Bytes
  | 0, _, _, bits, data => (.ofNat bits, data)
  | _ + 1, _, _, _, [] => (replacement, [])
  | count + 1, least, most, bits, b :: data =>
    if least ≤ b ∧ b ≤ most then follow count 0x80 0xBF (64 * bits + (b.toNat - 0x80)) data
    else (replacement, b :: data)

def next (b : UInt8) (data : Bytes) : Char × Bytes :=
  match lead? b with
  | some l => follow l.count l.least l.most l.bits data
  | none => (replacement, data)

theorem length_follow_le (count : Nat) (least most : UInt8) (bits : Nat) (data : Bytes) :
    (follow count least most bits data).2.length ≤ data.length := by
  induction data generalizing count least most bits with
  | nil => cases count <;> simp [follow]
  | cons b data ih =>
    cases count with
    | zero => simp [follow]
    | succ count =>
      rw [follow]
      split
      · exact Nat.le_succ_of_le (ih ..)
      · exact Nat.le_refl _

theorem length_next_le (b : UInt8) (data : Bytes) : (next b data).2.length ≤ data.length := by
  rw [next]
  split
  · exact length_follow_le ..
  · exact Nat.le_refl _

/-- Puts the characters that `data` spells, last one first, in front of `read`. Each longest
ill-formed piece that starts a character becomes one replacement character. -/
def readOnto (read : List Char) : Bytes → List Char
  | [] => read
  | b :: data => readOnto ((next b data).1 :: read) (next b data).2
termination_by data => data.length
decreasing_by exact Nat.lt_succ_of_le (length_next_le b data)

end Utf8

def toUtf8 (s : String) : Bytes :=
  s.toList.flatMap String.utf8EncodeChar

def ofUtf8 (data : Bytes) : String :=
  .ofList (Utf8.readOnto [] data).reverse

end TableFile.Text
