import TableFile.Page.Kind
import TableFile.Record

namespace TableFile

inductive Cell where
  | tableInterior (leftChild : UInt32) (rowId : Int64)
  | tableLeaf (rowId : Int64) (payload : Bytes)
  | indexInterior (leftChild : UInt32) (payload : Bytes)
  | indexLeaf (payload : Bytes)
deriving DecidableEq

namespace Cell

def kind : Cell → Page.Kind
  | tableInterior .. => .tableInterior
  | tableLeaf .. => .tableLeaf
  | indexInterior .. => .indexInterior
  | indexLeaf .. => .indexLeaf

def rowId? : Cell → Option Int64
  | tableInterior _ rowId | tableLeaf rowId _ => some rowId
  | _ => none

def leftChild? : Cell → Option UInt32
  | tableInterior leftChild _ | indexInterior leftChild _ => some leftChild
  | _ => none

def payload? : Cell → Option Bytes
  | tableLeaf _ payload | indexInterior _ payload | indexLeaf payload => some payload
  | tableInterior .. => none

def record? (cell : Cell) : Except Error (Option Record) :=
  match cell.payload? with
  | none => .ok none
  | some payload => return some (← Record.decode payload)

def nextVarint (data : Bytes) : Except Error (UInt64 × Bytes) := do
  let (value, size) ← Varint.read data
  return (value, data.drop size)

def nextRowId (data : Bytes) : Except Error (Int64 × Bytes) := do
  let (value, rest) ← nextVarint data
  return (value.toInt64, rest)

def nextChild (data : Bytes) : Except Error (UInt32 × Bytes) :=
  match data.splitAt? 4 with
  | some (child, rest) => .ok (.ofNat child.bigEndian, rest)
  | none => .error (.truncated .leftChild 4 data.length)

def nextPayload (size : UInt64) (data : Bytes) : Except Error Bytes :=
  match data.splitAt? size.toNat with
  | some (payload, _) => .ok payload
  | none => .error (.payloadTooLarge size data.length)

def read (kind : Page.Kind) (data : Bytes) : Except Error Cell :=
  match kind with
  | .tableLeaf => do
    let (size, data) ← nextVarint data
    let (rowId, data) ← nextRowId data
    return tableLeaf rowId (← nextPayload size data)
  | .tableInterior => do
    let (leftChild, data) ← nextChild data
    let (rowId, _) ← nextRowId data
    return tableInterior leftChild rowId
  | .indexLeaf => do
    let (size, data) ← nextVarint data
    return indexLeaf (← nextPayload size data)
  | .indexInterior => do
    let (leftChild, data) ← nextChild data
    let (size, data) ← nextVarint data
    return indexInterior leftChild (← nextPayload size data)

def decode (kind : Page.Kind) (page : Bytes) (offset : Nat) : Except Error Cell :=
  match page.drop offset with
  | [] => .error (.truncated .cell 1 0)
  | b :: data => read kind (b :: data)

def decodeTagged (tag : UInt8) (page : Bytes) (offset : Nat) : Except Error Cell := do
  decode (← Page.Kind.ofTag tag) page offset

def encode : Cell → Bytes
  | tableInterior leftChild rowId => Bytes.ofNat 4 leftChild.toNat ++ Varint.encode rowId.toUInt64
  | tableLeaf rowId payload =>
    Varint.encode (.ofNat payload.length) ++ Varint.encode rowId.toUInt64 ++ payload
  | indexInterior leftChild payload =>
    Bytes.ofNat 4 leftChild.toNat ++ Varint.encode (.ofNat payload.length) ++ payload
  | indexLeaf payload => Varint.encode (.ofNat payload.length) ++ payload

end Cell

end TableFile
