import TableFile.Proofs.Machine.Cell
import TableFile.Proofs.Page.Format

namespace TableFile

namespace Machine

def rightMost (kind : Page.Kind) (data : Bytes) : Machine (Option UInt32) :=
  if kind.isInterior then do
    let child ← bytesAt data 8 4
    return some (.ofNat child.bigEndian)
  else return none

theorem rightMost_eq {kind : Page.Kind} {data : Bytes} (h : kind.headerSize ≤ data.length) :
    rightMost kind data =
      done (if kind.isInterior then some (.ofNat (Page.Header.field data 8 4)) else none) := by
  rw [rightMost]
  split
  · next hinterior =>
    rw [Page.Kind.headerSize, if_pos hinterior] at h
    rw [bytesAt_eq h]
    rfl
  · rfl

def decodeHeader (data : Bytes) : Machine Page.Header :=
  match data with
  | [] => failed (.truncated .pageHeader Page.Kind.tableLeaf.headerSize 0)
  | tag :: _ => do
    let kind ← ofExcept (Page.Kind.ofTag tag)
    if data.length < kind.headerSize then
      failed (.truncated .pageHeader kind.headerSize data.length)
    else do
      let rightMost ← rightMost kind data
      let firstFreeblock ← bytesAt data 1 2
      let cellCount ← bytesAt data 3 2
      let contentStart ← bytesAt data 5 2
      let fragmentedBytes ← bytesAt data 7 1
      return {
        kind
        firstFreeblock := .ofNat firstFreeblock.bigEndian
        cellCount := .ofNat cellCount.bigEndian
        contentStart := .ofNat contentStart.bigEndian
        fragmentedBytes := .ofNat fragmentedBytes.bigEndian
        rightMost }

theorem decodeHeader_eq (data : Bytes) :
    decodeHeader data = ofExcept (Page.Header.decode data) := by
  cases data with
  | nil => rfl
  | cons tag data =>
    rw [decodeHeader, Page.Header.decode, ofExcept_bind]
    refine bind_congr fun kind ↦ ?_
    split
    · rfl
    · next hlong =>
      have hsize := Nat.not_lt.mp hlong
      have hleast := kind.le_headerSize.trans hsize
      rw [rightMost_eq hsize, done_bind, bytesAt_eq (by omega), done_bind, bytesAt_eq (by omega),
        done_bind, bytesAt_eq (by omega), done_bind, bytesAt_eq (by omega)]
      rfl

def readPointers : (array : Bytes) → Machine (List UInt16)
  | high :: low :: array => do
    let pointer ← bytesAt [high, low] 0 2
    let pointers ← readPointers array
    return .ofNat pointer.bigEndian :: pointers
  | _ => return []

theorem readPointers_eq (array : Bytes) : readPointers array = done (Page.readPointers array) := by
  fun_induction readPointers array with
  | case1 high low array ih =>
    rw [bytesAt_eq (Nat.le_refl _), done_bind, ih, Page.readPointers, done_bind, pure_eq_done]
    simp [Bytes.window, Bytes.bigEndian]
  | case2 array h =>
    rw [Page.readPointers.eq_2 array h]
    rfl

/-- The bytes that the array would take up are counted before it is known to be in the page. -/
def decodePage (data : Bytes) (number : UInt32) : Machine Page := do
  let header ← decodeHeader ((slice? data (Page.headerStart number) data.length).getD [])
  let start ← add (Page.headerStart number) header.size
  let size ← mul header.cellCount.toNat 2
  let stop ← add start size
  let needed ← sub stop start
  match slice? data start stop with
  | none => failed (.truncated .cellPointers needed (data.length - start))
  | some array => do
    let pointers ← readPointers array
    match pointers.find? fun p ↦ p.toNat < stop || data.length ≤ p.toNat with
    | some p => failed (.pointerOutOfRange number p stop data.length)
    | none => return ⟨number, header, pointers, data⟩

def cell? (page : Page) (index : Nat) : Option (Machine Cell) :=
  page.pointers[index]?.map fun pointer ↦ decodeCell page.kind page.data pointer.toNat

theorem decodePage_eq (data : Bytes) (number : UInt32) :
    decodePage data number = ofExcept (Page.decode data number) := by
  rw [decodePage, Page.decode, slice?_length, decodeHeader_eq, ofExcept_bind]
  cases hheader : Page.Header.decode (data.drop (Page.headerStart number)) with
  | error e => rfl
  | ok header =>
    have hsize := (Page.Header.tag_of_decode hheader).2
    have hcount := header.cellCount.toNat_lt
    have hstart := Page.headerStart_le number
    have hleast : 8 ≤ header.size := header.kind.le_headerSize
    have hmost : header.size ≤ 12 := header.kind.headerSize_le
    rw [List.length_drop] at hsize
    rw [ofExcept_ok, done_bind, done_bind, add_eq_of_lt (by omega) (by omega), done_bind,
      mul_eq_of_lt (by omega), done_bind, add_eq_of_lt (by omega) (by omega), done_bind,
      sub_eq (Nat.le_add_right _ _), done_bind, slice?_eq (by omega), Nat.add_sub_cancel_left,
      Nat.mul_comm _ 2]
    dsimp only
    cases Bytes.splitAt? (2 * header.cellCount.toNat)
        (data.drop (Page.headerStart number + header.size)) with
    | none => rfl
    | some parts =>
      dsimp only [Option.map_some]
      rw [readPointers_eq, done_bind]
      cases (Page.readPointers parts.1).find? fun p ↦
          p.toNat < Page.headerStart number + header.size + 2 * header.cellCount.toNat ||
            data.length ≤ p.toNat with
      | some p => rfl
      | none => rfl

theorem cell?_eq (page : Page) (index : Nat) :
    cell? page index = (page.cell? index).map ofExcept := by
  simp only [cell?, Page.cell?, Option.map_map, decodeCell_eq]
  rfl

/-- However a page is malformed, decoding it, any of its cells, and the record of any of those takes
no step outside of its bounds, and comes to what decoding without bounds comes to. -/
theorem decodePage_never_stuck {data : Bytes} (number : UInt32) (h : data.length < 2 ^ 63) :
    decodePage data number = ofExcept (Page.decode data number) ∧
    ∀ page, decodePage data number = done page → ∀ index,
      cell? page index = (page.cell? index).map ofExcept ∧
      ∀ cell, cell? page index = some (done cell) → record? cell = ofExcept cell.record? := by
  refine ⟨decodePage_eq data number, fun page hpage index ↦ ⟨cell?_eq page index, ?_⟩⟩
  intro cell hcell
  rw [decodePage_eq, ofExcept_eq_done_iff] at hpage
  obtain ⟨pointer, -, hcell⟩ := Option.map_eq_some_iff.mp hcell
  rw [decodeCell_eq, ofExcept_eq_done_iff] at hcell
  rw [← Page.data_of_decode hpage] at h
  exact record?_eq h hcell

/-- A page with one cell, whose record is a header only and states a text of `2 ^ 63 - 7` bytes. -/
def hugeText : Bytes :=
  [0x0D, 0, 0, 0, 1, 0, 10, 0, 0, 10, 10, 1, 10] ++ List.replicate 9 0xFF

theorem decodePage_never_stuck_hugeText :
    hugeText.length < 2 ^ 63 ∧ ∃ page cell, decodePage hugeText 2 = done page ∧
      cell? page 0 = some (done cell) ∧
      record? cell = failed (.truncated .recordValue 9223372036854775801 0) := by
  have hlength : hugeText.length < 2 ^ 63 := by decide
  obtain ⟨hpage, hcell⟩ := decodePage_never_stuck 2 hlength
  have hdecode : Page.decode hugeText 2 =
      .ok ⟨2, ⟨.tableLeaf, 0, 1, 10, 0, none⟩, [10], hugeText⟩ := by decide +kernel
  rw [hdecode] at hpage
  obtain ⟨hfirst, hrecord⟩ := hcell _ hpage 0
  have hcell? : (Page.mk 2 ⟨.tableLeaf, 0, 1, 10, 0, none⟩ [10] hugeText).cell? 0 =
      some (.ok (.tableLeaf 1 (10 :: .replicate 9 0xFF))) := by decide +kernel
  rw [hcell?] at hfirst
  refine ⟨hlength, _, _, hpage, hfirst, (hrecord _ hfirst).trans ?_⟩
  have hrecord? : (Cell.tableLeaf 1 (10 :: .replicate 9 0xFF)).record? =
      .error (.truncated .recordValue 9223372036854775801 0) := by decide +kernel
  rw [hrecord?]
  rfl

end Machine

end TableFile
