import TableFile.Page.Layout
import TableFile.Proofs.Page.CellFormat
import TableFile.Proofs.Page.Header

namespace TableFile.Page

theorem length_starts (limit : Nat) (encoded : List Bytes) :
    (starts limit encoded).length = encoded.length := by
  induction encoded generalizing limit with
  | nil => rfl
  | cons cell encoded ih => rw [starts, List.length_cons, List.length_cons, ih]

theorem readPointers_flatMap (starts : List Nat) :
    readPointers (starts.flatMap (Bytes.ofNat 2)) = starts.map .ofNat := by
  induction starts with
  | nil => rfl
  | cons start starts ih =>
    have hstart : UInt16.ofNat
        (256 * (UInt8.ofNat (start / 256)).toNat + (UInt8.ofNat start).toNat) = .ofNat start := by
      rw [← UInt16.toNat_inj]
      simp only [UInt16.toNat_ofNat', UInt8.toNat_ofNat']
      omega
    rw [List.flatMap_cons, List.map_cons, ← ih, ← hstart]
    rfl

theorem length_flatMap_ofNat (width : Nat) (starts : List Nat) :
    (starts.flatMap (Bytes.ofNat width)).length = width * starts.length := by
  simp [List.length_flatMap, Nat.mul_comm]

/-- Each start is in front of its own bytes, where the bytes are put one before the other between
`front` and `rest`. -/
theorem forall₂_starts {data front rest : Bytes} {encoded : List Bytes} (limit : Nat)
    (hdata : data = front ++ (encoded.reverse.flatten ++ rest))
    (hlimit : limit = front.length + encoded.reverse.flatten.length) :
    List.Forall₂ (fun start bytes ↦ front.length ≤ start ∧ ∃ rest, data.drop start = bytes ++ rest)
      (starts limit encoded) encoded := by
  induction encoded generalizing rest limit with
  | nil => exact .nil
  | cons bytes encoded ih =>
    simp only [List.reverse_cons, List.flatten_append, List.flatten_singleton, List.append_assoc,
      List.length_append] at hdata hlimit
    have hstart : limit - bytes.length = front.length + encoded.reverse.flatten.length := by omega
    refine .cons ⟨hstart ▸ Nat.le_add_right _ _, rest, ?_⟩ (ih _ hdata hstart)
    rw [hdata, hstart, ← List.append_assoc, List.drop_left' List.length_append]

theorem decode_eq_ok {data rest : Bytes} {number : UInt32} {header : Header} {starts : List Nat}
    (hheader : header.rightMost.isSome = header.kind.isInterior)
    (hcount : header.cellCount.toNat = starts.length)
    (hdata : data.drop (headerStart number) =
      header.encode ++ (starts.flatMap (Bytes.ofNat 2) ++ rest))
    (hstarts : ∀ start ∈ starts,
      headerStart number + header.size + 2 * starts.length ≤ start ∧ start < data.length)
    (hsize : data.length ≤ 65536) :
    decode data number = .ok ⟨number, header, starts.map .ofNat, data⟩ := by
  have harray : data.drop (headerStart number + header.size) =
      starts.flatMap (Bytes.ofNat 2) ++ rest := by
    rw [← List.drop_drop, hdata, List.drop_left' header.length_encode]
  have hsplit : Bytes.splitAt? (2 * starts.length) (starts.flatMap (Bytes.ofNat 2) ++ rest) =
      some (starts.flatMap (Bytes.ofNat 2), rest) :=
    Bytes.splitAt?_eq_some_iff.mpr ⟨length_flatMap_ofNat 2 starts, rfl⟩
  have hfind : ((starts.map UInt16.ofNat).find? fun p ↦
      p.toNat < headerStart number + header.size + 2 * starts.length ||
        data.length ≤ p.toNat) = none := by
    rw [List.find?_eq_none]
    intro p hp
    obtain ⟨start, hstart, rfl⟩ := List.mem_map.mp hp
    obtain ⟨hleast, hmost⟩ := hstarts start hstart
    have hp : (UInt16.ofNat start).toNat = start :=
      UInt16.toNat_ofNat_of_lt' (show start < 65536 by omega)
    simp only [hp, Bool.or_eq_true, decide_eq_true_eq, not_or]
    omega
  rw [decode, hdata, Header.decode_encode hheader]
  simp only [Except.ok_bind, hcount, harray, hsplit, readPointers_flatMap, hfind, Except.pure_eq_ok]

theorem cells_eq_map_ok {data : Bytes} (number : UInt32) (header : Header) {starts : List Nat}
    {cells : List Cell} (hkind : ∀ cell ∈ cells, cell.kind = header.kind)
    (h : List.Forall₂ (fun start cell ↦ ∃ rest, data.drop start = cell.encode ++ rest) starts cells)
    (hsize : data.length ≤ 65536) :
    (Page.mk number header (starts.map .ofNat) data).cells = cells.map .ok := by
  induction h with
  | nil => rfl
  | @cons start cell starts cells hcell _ ih =>
    obtain ⟨rest, hdrop⟩ := hcell
    have hstart := Cell.lt_length_of_drop_eq hdrop
    have hpointer : (UInt16.ofNat start).toNat = start :=
      UInt16.toNat_ofNat_of_lt' (show start < 65536 by omega)
    have hhead : cellAt ⟨number, header, (start :: starts).map .ofNat, data⟩ (.ofNat start) =
        .ok cell := by
      rw [cellAt, kind, hpointer, ← hkind cell List.mem_cons_self]
      exact Cell.decode_of_drop_eq hdrop (Nat.lt_of_le_of_lt hsize (by decide))
    have htail := ih fun cell hcell ↦ hkind cell (List.mem_cons_of_mem _ hcell)
    exact congrArg₂ List.cons hhead htail

structure Holds (page : Page) (number : UInt32) (kind : Kind) (rightMost : UInt32)
    (cells : List Cell) : Prop where
  number_eq : page.number = number
  kind_eq : page.kind = kind
  cellCount_eq : page.header.cellCount.toNat = cells.length
  rightMost_eq : page.header.rightMost = if kind.isInterior then some rightMost else none
  cells_eq : page.cells = cells.map .ok

theorem length_layout? {size : Nat} {number : UInt32} {kind : Kind} {rightMost : UInt32}
    {cells : List Cell} {data : Bytes} (h : layout? size number kind rightMost cells = some data) :
    data.length = size := by
  simp only [layout?, Option.ite_none_right_eq_some, Option.some.injEq] at h
  obtain ⟨hfits, rfl⟩ := h
  simp only [List.length_append, List.length_replicate, Header.length_encode, Header.size,
    length_flatMap_ofNat, length_starts, List.length_map]
  omega

theorem length_encode_le {size : Nat} {number : UInt32} {kind : Kind} {rightMost : UInt32}
    {cells : List Cell} {data : Bytes} (h : layout? size number kind rightMost cells = some data)
    {cell : Cell} (hcell : cell ∈ cells) : cell.encode.length ≤ size := by
  simp only [layout?, Option.ite_none_right_eq_some] at h
  have hmem : cell.encode ∈ (cells.map Cell.encode).reverse :=
    List.mem_reverse.mpr (List.mem_map_of_mem hcell)
  have hle := (List.sublist_flatten_of_mem hmem).length_le
  omega

variable {size : Nat} {number : UInt32} {cells : List Cell}

theorem decode_packed {data gap : Bytes} {header : Header} (hlength : data.length = size)
    (hsize : size ≤ 65536) (hnumber : headerStart number ≤ size)
    (hheader : header.rightMost.isSome = header.kind.isInterior)
    (hcount : header.cellCount.toNat = cells.length)
    (hkind : ∀ cell ∈ cells, cell.kind = header.kind)
    (hdata : data.drop (headerStart number) =
      header.encode ++ ((starts size (cells.map Cell.encode)).flatMap (Bytes.ofNat 2) ++
        (gap ++ (cells.map Cell.encode).reverse.flatten))) :
    ∃ page, decode data number = .ok page ∧ page.number = number ∧ page.header = header ∧
      page.cells = cells.map .ok := by
  subst hlength
  have hsplit : data = (data.take (headerStart number) ++ header.encode ++
      (starts data.length (cells.map Cell.encode)).flatMap (Bytes.ofNat 2) ++ gap) ++
        ((cells.map Cell.encode).reverse.flatten ++ []) := by
    simp only [List.append_nil, List.append_assoc, ← hdata, List.take_append_drop]
  have hlimit := congrArg List.length hsplit
  rw [List.length_append, List.append_nil] at hlimit
  have hcells := List.forall₂_map_right_iff.mp (forall₂_starts data.length hsplit hlimit)
  have hlength : (starts data.length (cells.map Cell.encode)).length = cells.length := by
    rw [length_starts, List.length_map]
  generalize starts data.length (cells.map Cell.encode) = starts at *
  have hinside : List.Forall₂ (fun start cell ↦ start < data.length ∧
      ∃ rest, data.drop start = Cell.encode cell ++ rest) starts cells :=
    hcells.imp fun start cell h ↦ ⟨h.2.elim fun _ ↦ Cell.lt_length_of_drop_eq, h.2⟩
  rw [List.forall₂_and_left] at hcells hinside
  refine ⟨⟨number, header, starts.map .ofNat, data⟩,
    decode_eq_ok hheader (hcount.trans hlength.symm) hdata ?_ hsize, rfl, rfl,
    cells_eq_map_ok number header hkind hcells.2 hsize⟩
  intro start hstart
  refine ⟨?_, hinside.1 start hstart⟩
  have hleast := hcells.1 start hstart
  simp only [List.length_append, List.length_take_of_le hnumber, Header.length_encode,
    length_flatMap_ofNat] at hleast
  omega

/-- A laid out page is read back, also where bytes of the file header are put in front of it. -/
theorem holds_of_layout? {kind : Kind} {rightMost : UInt32}
    {data page : Bytes} (hsize : size ≤ 65536) (hkind : ∀ cell ∈ cells, cell.kind = kind)
    (h : layout? size number kind rightMost cells = some page)
    (hlength : data.length = page.length)
    (hdrop : data.drop (headerStart number) = page.drop (headerStart number)) :
    ∃ p, decode data number = .ok p ∧ p.Holds number kind rightMost cells := by
  replace hlength := hlength.trans (length_layout? h)
  simp only [layout?, Option.ite_none_right_eq_some, Option.some.injEq] at h
  obtain ⟨hfits, rfl⟩ := h
  simp only [List.append_assoc, List.drop_left' List.length_replicate] at hdrop
  have hcount : (UInt16.ofNat cells.length).toNat = cells.length :=
    UInt16.toNat_ofNat_of_lt' (show cells.length < 65536 by omega)
  obtain ⟨p, hdecode, hnumber, hheader, hcells⟩ :=
    decode_packed hlength hsize (by omega) (by cases kind <;> rfl) hcount hkind hdrop
  refine ⟨p, hdecode, hnumber, ?_, ?_, ?_, hcells⟩
  · rw [Page.kind, hheader]
  · rw [hheader, hcount]
  · rw [hheader]

theorem layout?_isSome {kind : Kind} (rightMost : UInt32)
    (hfits : headerStart number + kind.headerSize + 2 * cells.length +
      (cells.map fun cell ↦ cell.encode.length).sum ≤ size) :
    (layout? size number kind rightMost cells).isSome := by
  have hcontent : (cells.map Cell.encode).reverse.flatten.length =
      (cells.map fun cell ↦ cell.encode.length).sum := by
    rw [List.length_flatten, List.map_reverse, List.sum_reverse, List.map_map]
    rfl
  simp only [layout?, hcontent, if_pos hfits, Option.isSome_some]

/-- Cells of one kind that fit into a page can be laid out on it, and the page is read back: with
its kind, the number of its cells and, if it is an interior page, its right-most child, and with
the cells in their order. -/
theorem decode_layout? {kind : Kind} (rightMost : UInt32) (hsize : size ≤ 65536)
    (hkind : ∀ cell ∈ cells, cell.kind = kind)
    (hfits : headerStart number + kind.headerSize + 2 * cells.length +
      (cells.map fun cell ↦ cell.encode.length).sum ≤ size) :
    ∃ data page, layout? size number kind rightMost cells = some data ∧ data.length = size ∧
      decode data number = .ok page ∧ page.header.kind = kind ∧
      page.header.cellCount.toNat = cells.length ∧
      page.header.rightMost = (if kind.isInterior then some rightMost else none) ∧
      page.cells = cells.map .ok := by
  obtain ⟨data, hdata⟩ := Option.isSome_iff_exists.mp (layout?_isSome rightMost hfits)
  obtain ⟨page, hpage, hholds⟩ := holds_of_layout? hsize hkind hdata rfl rfl
  exact ⟨data, page, hdata, length_layout? hdata, hpage, hholds.kind_eq, hholds.cellCount_eq,
    hholds.rightMost_eq, hholds.cells_eq⟩

/-- The first cell is the last byte of the largest page there is. -/
theorem decode_layout?_lastByte :
    (∀ cell ∈ [Cell.indexLeaf [], .indexLeaf [0xAA]], cell.kind = .indexLeaf) ∧
    ∃ data page, layout? 65536 1 .indexLeaf 7 [.indexLeaf [], .indexLeaf [0xAA]] = some data ∧
      decode data 1 = .ok page ∧ page.header.rightMost = none ∧
      page.cells = [.ok (.indexLeaf []), .ok (.indexLeaf [0xAA])] := by
  have hkind : ∀ cell ∈ [Cell.indexLeaf [], .indexLeaf [0xAA]], cell.kind = .indexLeaf := by
    decide
  have hfits : headerStart 1 + Kind.indexLeaf.headerSize + 2 * 2 +
      ([Cell.indexLeaf [], .indexLeaf [0xAA]].map fun cell ↦ cell.encode.length).sum ≤ 65536 := by
    decide +kernel
  obtain ⟨data, page, hdata, -, hpage, -, -, hright, hcells⟩ :=
    decode_layout? 7 le_rfl hkind hfits
  exact ⟨hkind, data, page, hdata, hpage, hright, hcells⟩

end TableFile.Page
