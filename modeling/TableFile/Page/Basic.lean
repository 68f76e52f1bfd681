import TableFile.Page.Cell
import TableFile.Page.Header

namespace TableFile

structure Page where
  number : UInt32
  header : Page.Header
  pointers : List UInt16
  data : Bytes
deriving DecidableEq

namespace Page

def kind (page : Page) : Kind :=
  page.header.kind

def cellCount (page : Page) : Nat :=
  page.pointers.length

def fileHeaderSize : Nat := 100

def headerStart (number : UInt32) : Nat :=
  if number = 1 then fileHeaderSize else 0

def readPointers : Bytes → List UInt16
  | high :: low :: data => .ofNat (256 * high.toNat + low.toNat) :: readPointers data
  | _ => []

/-- Pointers count from the start of the page, also on page 1, and each has to lie behind the array
of pointers and in front of the end of the page. -/
def decode (data : Bytes) (number : UInt32) : Except Error Page := do
  let header ← Header.decode (data.drop (headerStart number))
  let start := headerStart number + header.size
  let size := 2 * header.cellCount.toNat
  match Bytes.splitAt? size (data.drop start) with
  | none => throw (.truncated .cellPointers size (data.length - start))
  | some (array, _) =>
    let pointers := readPointers array
    let stop := start + size
    let limit := data.length
    match pointers.find? fun p ↦ p.toNat < stop || limit ≤ p.toNat with
    | some p => throw (.pointerOutOfRange number p stop limit)
    | none => return ⟨number, header, pointers, data⟩

def cellAt (page : Page) (pointer : UInt16) : Except Error Cell :=
  Cell.decode page.kind page.data pointer.toNat

def cells (page : Page) : List (Except Error Cell) :=
  page.pointers.map page.cellAt

def cell? (page : Page) (index : Nat) : Option (Except Error Cell) :=
  page.pointers[index]?.map page.cellAt

def ofFile (file : Bytes) (pageSize : Nat) (number : UInt32) : Except Error Page :=
  if number = 0 then .error .pageZero
  else
    let window := (file.drop ((number.toNat - 1) * pageSize)).take pageSize
    if window.length = pageSize then decode window number
    else .error (.cutShort number pageSize window.length)

end Page

end TableFile
