import TableFile.Varint

namespace TableFile

structure Record where
  headerSize : Nat
  types : List SerialType
  values : List Value
deriving DecidableEq

namespace Record

/-- Reads serial types from `data`, which starts at byte `position` of the record, until the header
is used up, and says where the last one ends. -/
def readTypes (headerSize position : Nat) (data : Bytes) : Except Error (List SerialType × Nat) :=
  if position < headerSize then
    match _h : Varint.read data with
    | .error e => .error e
    | .ok (code, size) => do
      let (types, stop) ← readTypes headerSize (position + size) (data.drop size)
      return (.ofCode code :: types, stop)
  else .ok ([], position)
termination_by headerSize - position
decreasing_by
  have := Varint.read_size_pos ‹_›
  omega

def readValues : List SerialType → (body : Bytes) → Except Error (List Value)
  | [], _ => .ok []
  | type :: types, body =>
    match body.splitAt? type.size with
    | none => .error (.truncated .recordValue type.size body.length)
    | some (front, rest) => do
      let values ← readValues types rest
      return .decode type front :: values

/-- The record that `payload` holds. An empty payload has no header and no values, and bytes
behind the last value are ignored. -/
def decode (payload : Bytes) : Except Error Record :=
  if payload.isEmpty then .ok ⟨0, [], []⟩
  else do
    let (declared, size) ← Varint.read payload
    let headerSize := declared.toNat
    if headerSize < size ∨ payload.length < headerSize then
      throw (.badRecord (.headerSize headerSize size payload.length))
    let (types, stop) ← readTypes headerSize size (payload.drop size)
    if stop ≠ headerSize then
      throw (.badRecord (.headerOverrun stop headerSize))
    return ⟨headerSize, types, ← readValues types (payload.drop headerSize)⟩

/-- The record of the values, if one byte can state the size of its header. -/
def encode? (values : List Value) : Option Bytes :=
  let types := values.flatMap fun value ↦ Varint.encode value.storedType.code
  if types.length + 1 < 128 then
    some (.ofNat (types.length + 1) :: types ++ values.flatMap Value.stored)
  else none

end Record

end TableFile
