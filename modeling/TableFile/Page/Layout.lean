import TableFile.Page.Basic

namespace TableFile.Page

/-- Where the cells start when each is put right before the one in front of it, and the first ends
at `limit`. -/
def starts (limit : Nat) : List Bytes → List Nat
  | [] => []
  | cell :: cells => (limit - cell.length) :: starts (limit - cell.length) cells

/-- The page of `size` bytes that holds the cells, if they fit into it. Where the file header goes
it has zeros. -/
def layout? (size : Nat) (number : UInt32) (kind : Kind) (rightMost : UInt32)
    (cells : List Cell) : Option Bytes :=
  let encoded := cells.map Cell.encode
  let content := encoded.reverse.flatten
  let used := headerStart number + kind.headerSize + 2 * cells.length
  if used + content.length ≤ size then
    let header : Header := {
      kind
      firstFreeblock := 0
      cellCount := .ofNat cells.length
      contentStart := .ofNat (size - content.length)
      fragmentedBytes := 0
      rightMost := if kind.isInterior then some rightMost else none }
    some (List.replicate (headerStart number) 0 ++ header.encode ++
      (starts size encoded).flatMap (Bytes.ofNat 2) ++
      List.replicate (size - used - content.length) 0 ++ content)
  else none

end TableFile.Page
