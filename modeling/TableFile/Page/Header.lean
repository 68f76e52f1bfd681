import TableFile.Page.Kind

namespace TableFile.Page

structure Header where
  kind : Kind
  firstFreeblock : UInt16
  cellCount : UInt16
  contentStart : UInt16
  fragmentedBytes : UInt8
  rightMost : Option UInt32
deriving DecidableEq

namespace Header

def size (header : Header) : Nat :=
  header.kind.headerSize

def field (data : Bytes) (start count : Nat) : Nat :=
  Bytes.bigEndian ((data.drop start).take count)

/-- The header at the front of `data`. Its tag is looked at before its size. -/
def decode (data : Bytes) : Except Error Header :=
  match data with
  | [] => .error (.truncated .pageHeader Kind.tableLeaf.headerSize 0)
  | tag :: _ => do
    let kind ← Kind.ofTag tag
    if data.length < kind.headerSize then
      throw (.truncated .pageHeader kind.headerSize data.length)
    return {
      kind
      firstFreeblock := .ofNat (field data 1 2)
      cellCount := .ofNat (field data 3 2)
      contentStart := .ofNat (field data 5 2)
      fragmentedBytes := .ofNat (field data 7 1)
      rightMost := if kind.isInterior then some (.ofNat (field data 8 4)) else none }

def encode (header : Header) : Bytes :=
  [header.kind.tag] ++ Bytes.ofNat 2 header.firstFreeblock.toNat ++
    Bytes.ofNat 2 header.cellCount.toNat ++ Bytes.ofNat 2 header.contentStart.toNat ++
    [header.fragmentedBytes] ++
    if header.kind.isInterior then Bytes.ofNat 4 ((header.rightMost.map UInt32.toNat).getD 0)
    else []

end Header

end TableFile.Page
