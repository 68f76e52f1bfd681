import TableFile.Proofs.Machine.Record
import TableFile.Proofs.Page.CellFormat

namespace TableFile.Machine

def nextVarint (data : Bytes) : Machine (UInt64 × Bytes) := do
  let (value, size) ← readVarint data 0
  return (value, ← advance size data)

theorem nextVarint_eq (data : Bytes) : nextVarint data = ofExcept (Cell.nextVarint data) := by
  rw [nextVarint, readVarint_eq _ (by decide), Varint.readAt, List.drop_zero, Cell.nextVarint]
  cases hread : Varint.read data with
  | error e => rfl
  | ok r =>
    have hsize := (Varint.read_local hread).1
    simp only [ofExcept_ok, done_bind, advance_eq hsize]
    rfl

def nextRowId (data : Bytes) : Machine (Int64 × Bytes) := do
  let (value, rest) ← nextVarint data
  return (value.toInt64, rest)

theorem nextRowId_eq (data : Bytes) : nextRowId data = ofExcept (Cell.nextRowId data) := by
  rw [nextRowId, nextVarint_eq, Cell.nextRowId, ofExcept_bind]
  rfl

def nextChild (data : Bytes) : Machine (UInt32 × Bytes) :=
  if data.length < 4 then failed (.truncated .leftChild 4 data.length)
  else do
    let (child, rest) ← splitTo 4 data
    return (.ofNat child.bigEndian, rest)

theorem nextChild_eq (data : Bytes) : nextChild data = ofExcept (Cell.nextChild data) := by
  rw [nextChild, Cell.nextChild]
  split
  · next hshort =>
    rw [Bytes.splitAt?_eq_none_iff.mpr hshort]
    rfl
  · next hlong =>
    have hle : 4 ≤ data.length := Nat.not_lt.mp hlong
    rw [splitTo_eq hle, Bytes.splitAt?_of_le hle]
    rfl

def nextPayload (size : UInt64) (data : Bytes) : Machine Bytes :=
  if size.toNat ≤ data.length then do
    let (payload, _) ← splitTo size.toNat data
    return payload
  else failed (.payloadTooLarge size data.length)

theorem nextPayload_eq (size : UInt64) (data : Bytes) :
    nextPayload size data = ofExcept (Cell.nextPayload size data) := by
  rw [nextPayload, Cell.nextPayload]
  split
  · next hle =>
    rw [splitTo_eq hle, Bytes.splitAt?_of_le hle]
    rfl
  · next hgt =>
    rw [Bytes.splitAt?_eq_none_iff.mpr (Nat.not_le.mp hgt)]
    rfl

def readCell (kind : Page.Kind) (data : Bytes) : Machine Cell :=
  match kind with
  | .tableLeaf => do
    let (size, data) ← nextVarint data
    let (rowId, data) ← nextRowId data
    return .tableLeaf rowId (← nextPayload size data)
  | .tableInterior => do
    let (leftChild, data) ← nextChild data
    let (rowId, _) ← nextRowId data
    return .tableInterior leftChild rowId
  | .indexLeaf => do
    let (size, data) ← nextVarint data
    return .indexLeaf (← nextPayload size data)
  | .indexInterior => do
    let (leftChild, data) ← nextChild data
    let (size, data) ← nextVarint data
    return .indexInterior leftChild (← nextPayload size data)

theorem readCell_eq (kind : Page.Kind) (data : Bytes) :
    readCell kind data = ofExcept (Cell.read kind data) := by
  cases kind <;>
    simp only [readCell, Cell.read, nextVarint_eq, nextRowId_eq, nextChild_eq, nextPayload_eq,
      ofExcept_bind] <;> rfl

def decodeCell (kind : Page.Kind) (page : Bytes) (offset : Nat) : Machine Cell :=
  if page.length ≤ offset then failed (.truncated .cell 1 0)
  else do readCell kind (← slice page offset page.length)

theorem decodeCell_eq (kind : Page.Kind) (page : Bytes) (offset : Nat) :
    decodeCell kind page offset = ofExcept (Cell.decode kind page offset) := by
  rw [decodeCell, Cell.decode]
  split
  · next hend =>
    rw [List.drop_of_length_le hend]
    rfl
  · next hinside =>
    have hwindow : page.window offset (page.length - offset) = page.drop offset :=
      List.take_of_length_le (List.length_drop ▸ Nat.le_refl _)
    rw [slice_eq (by omega) (Nat.le_refl _), done_bind, hwindow, readCell_eq]
    split
    · next hnil => exact absurd (List.drop_eq_nil_iff.mp hnil) hinside
    · next hdrop => rw [hdrop]

def record? (cell : Cell) : Machine (Option Record) :=
  match cell.payload? with
  | none => return none
  | some payload => return some (← decodeRecord payload)

theorem record?_eq {kind : Page.Kind} {page : Bytes} {offset : Nat} {cell : Cell}
    (hpage : page.length < 2 ^ 63) (h : Cell.decode kind page offset = .ok cell) :
    record? cell = ofExcept cell.record? := by
  rw [record?, Cell.record?]
  cases hpayload : cell.payload? with
  | none => rfl
  | some payload =>
    dsimp only
    rw [decodeRecord_eq ((Cell.payload_length_le h hpayload).trans_lt hpage), ofExcept_bind]
    rfl

end TableFile.Machine
