import TableFile.SerialType
import TableFile.Text.Utf8

namespace TableFile

/-- A float is kept as its binary64 bits, so that every NaN stays itself. The integers 0 and 1 that
take no bytes are values of their own. -/
inductive Value where
  | null
  | integer (n : Int64)
  | float (bits : UInt64)
  | zero
  | one
  | reserved (code : UInt64)
  | blob (data : Bytes)
  | text (content : String)
deriving DecidableEq

namespace Value

def signed (body : Bytes) : Int64 :=
  .ofInt (Int.bmod body.bigEndian (1 <<< (8 * body.length)))

def decode (type : SerialType) (body : Bytes) : Value :=
  match type with
  | .null => null
  | .integer _ => integer (signed body)
  | .float => float (.ofNat body.bigEndian)
  | .zero => zero
  | .one => one
  | .reserved code => reserved code
  | .blob _ => blob body
  | .text _ => text (Text.ofUtf8 body)

def fits (n : Int64) (width : IntegerWidth) : Bool :=
  let bound : Nat := 1 <<< (8 * width.bytes - 1)
  n.toInt < bound && -bound ≤ n.toInt

/-- The type under which a value is written. 0 and 1 take no bytes, and any other integer the least
of one, two, four and eight. -/
def storedType : Value → SerialType
  | null => .null
  | integer n =>
    if n = 0 then .zero
    else if n = 1 then .one
    else if fits n .one then .integer .one
    else if fits n .two then .integer .two
    else if fits n .four then .integer .four
    else .integer .eight
  | float _ => .float
  | zero => .zero
  | one => .one
  | reserved code => .reserved code
  | blob data => .blob data.length
  | text content => .text (Text.toUtf8 content).length

def stored (value : Value) : Bytes :=
  match value with
  | integer n => .ofNat value.storedType.size n.toUInt64.toNat
  | float bits => .ofNat 8 bits.toNat
  | blob data => data
  | text content => Text.toUtf8 content
  | _ => []

def integer? : Value → Option Int64
  | integer n => some n
  | zero => some 0
  | one => some 1
  | _ => none

def text? : Value → Option String
  | text content => some content
  | _ => none

def isNull : Value → Bool
  | null => true
  | _ => false

end Value

end TableFile
