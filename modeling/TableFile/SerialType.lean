import TableFile.Bytes

namespace TableFile

inductive IntegerWidth where
  | one | two | three | four | six | eight
deriving DecidableEq

def IntegerWidth.bytes : IntegerWidth → Nat
  | one => 1
  | two => 2
  | three => 3
  | four => 4
  | six => 6
  | eight => 8

/-- Codes 10 and 11 have no meaning in a file; they are `reserved`. -/
inductive SerialType where
  | null
  | integer (width : IntegerWidth)
  | float
  | zero
  | one
  | reserved (code : UInt64)
  | blob (length : Nat)
  | text (length : Nat)
deriving DecidableEq

namespace SerialType

/-- From 12 on an even code is a blob and an odd one a text, and the code counts its bytes. -/
def ofCode (code : UInt64) : SerialType :=
  match code.toNat with
  | 0 => .null
  | 1 => .integer .one
  | 2 => .integer .two
  | 3 => .integer .three
  | 4 => .integer .four
  | 5 => .integer .six
  | 6 => .integer .eight
  | 7 => .float
  | 8 => .zero
  | 9 => .one
  | 10 => .reserved code
  | 11 => .reserved code
  | n => if n % 2 = 0 then .blob ((n - 12) / 2) else .text ((n - 13) / 2)

def code : SerialType → UInt64
  | .null => 0
  | .integer .one => 1
  | .integer .two => 2
  | .integer .three => 3
  | .integer .four => 4
  | .integer .six => 5
  | .integer .eight => 6
  | .float => 7
  | .zero => 8
  | .one => 9
  | .reserved code => code
  | .blob length => .ofNat (12 + 2 * length)
  | .text length => .ofNat (13 + 2 * length)

def size : SerialType → Nat
  | .null | .zero | .one | .reserved _ => 0
  | .integer width => width.bytes
  | .float => 8
  | .blob length | .text length => length

end SerialType

end TableFile
