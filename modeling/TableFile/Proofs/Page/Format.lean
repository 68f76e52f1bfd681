import TableFile.Proofs.Bytes.Window
import TableFile.Proofs.Page.CellFormat
import TableFile.Proofs.Page.Header

namespace TableFile.Page

def statedCount (data : Bytes) (number : UInt32) : Nat :=
  (data.window (headerStart number + 3) 2).bigEndian

def arrayStart (number : UInt32) (kind : Kind) : Nat :=
  headerStart number + kind.headerSize

def arrayStop (data : Bytes) (number : UInt32) (kind : Kind) : Nat :=
  arrayStart number kind + 2 * statedCount data number

def statedPointer (data : Bytes) (number : UInt32) (kind : Kind) (index : Nat) : Nat :=
  (data.window (arrayStart number kind + 2 * index) 2).bigEndian

structure HasArray (data : Bytes) (number : UInt32) (kind : Kind) : Prop where
  tag_eq : data[headerStart number]? = some kind.tag
  header_le : arrayStart number kind ≤ data.length
  array_le : arrayStop data number kind ≤ data.length

def PointsInside (data : Bytes) (number : UInt32) (kind : Kind) (index : Nat) : Prop :=
  arrayStop data number kind ≤ statedPointer data number kind index ∧
    statedPointer data number kind index < data.length

instance (data : Bytes) (number : UInt32) (kind : Kind) (index : Nat) :
    Decidable (PointsInside data number kind index) :=
  inferInstanceAs (Decidable (_ ∧ _))

structure HasFormat (data : Bytes) (number : UInt32) (kind : Kind) : Prop
    extends HasArray data number kind where
  pointsInside : ∀ index < statedCount data number, PointsInside data number kind index

variable {data : Bytes} {number : UInt32} {kind : Kind}

theorem headerStart_le (number : UInt32) : headerStart number ≤ 100 := by
  rw [headerStart]
  split <;> decide

theorem bigEndian_window_two_lt (data : Bytes) (start : Nat) :
    (data.window start 2).bigEndian < UInt16.size := by
  have hle : 256 ^ (data.window start 2).length ≤ 256 ^ 2 :=
    Nat.pow_le_pow_right (by decide) (List.length_take_le _ _)
  exact (Bytes.bigEndian_lt _).trans_le hle

theorem toNat_ofNat_bigEndian_window (data : Bytes) (start : Nat) :
    (UInt16.ofNat (data.window start 2).bigEndian).toNat = (data.window start 2).bigEndian :=
  UInt16.toNat_ofNat_of_lt' (bigEndian_window_two_lt data start)

theorem readPointers_window {start count : Nat} (h : start + 2 * count ≤ data.length) :
    readPointers (data.window start (2 * count)) =
      (List.range count).map fun i ↦ .ofNat (data.window (start + 2 * i) 2).bigEndian := by
  induction count generalizing start with
  | zero => rfl
  | succ count ih =>
    obtain ⟨high, low, hdrop⟩ :
        ∃ high low, data.drop start = high :: low :: data.drop (start + 2) := by
      refine ⟨data[start], data[start + 1], ?_⟩
      rw [List.drop_eq_getElem_cons (by omega), List.drop_eq_getElem_cons (by omega)]
    have harray : data.window start (2 * (count + 1)) =
        high :: low :: data.window (start + 2) (2 * count) := by
      rw [Bytes.window, hdrop]
      rfl
    have hfirst : UInt16.ofNat (256 * high.toNat + low.toNat) =
        .ofNat (data.window start 2).bigEndian := by
      rw [Bytes.window, hdrop]
      simp [Bytes.bigEndian]
    rw [harray, readPointers, ih (by omega), List.range_succ_eq_map, List.map_cons, List.map_map]
    refine congrArg₂ List.cons hfirst (List.map_congr_left fun i _ ↦ ?_)
    rw [Function.comp_apply, show start + 2 * i.succ = start + 2 + 2 * i by omega]

def statedPointers (data : Bytes) (number : UInt32) (kind : Kind) : List UInt16 :=
  (List.range (statedCount data number)).map fun i ↦ .ofNat (statedPointer data number kind i)

theorem readPointers_array (h : arrayStop data number kind ≤ data.length) :
    readPointers (data.window (arrayStart number kind) (2 * statedCount data number)) =
      statedPointers data number kind :=
  readPointers_window h

theorem find?_statedPointers (data : Bytes) (number : UInt32) (kind : Kind) :
    ((statedPointers data number kind).find? fun p ↦
      p.toNat < arrayStop data number kind || data.length ≤ p.toNat) =
    ((List.range (statedCount data number)).find? fun i ↦
      !decide (PointsInside data number kind i)).map fun i ↦
        .ofNat (statedPointer data number kind i) := by
  rw [statedPointers, List.find?_map]
  congr 2
  funext i
  have hpointer := toNat_ofNat_bigEndian_window data (arrayStart number kind + 2 * i)
  rw [← statedPointer] at hpointer
  rw [Bool.eq_iff_iff]
  simp only [Function.comp_apply, hpointer, Bool.or_eq_true, Bool.not_eq_true', decide_eq_true_eq,
    decide_eq_false_iff_not]
  rw [PointsInside]
  omega

theorem toNat_cellCount {header : Header}
    (h : Header.decode (data.drop (headerStart number)) = .ok header) :
    header.cellCount.toNat = statedCount data number := by
  obtain ⟨htag, hsize⟩ := Header.tag_of_decode h
  have hfields := Except.ok.inj (h.symm.trans (Header.decode_eq_ok htag hsize))
  have hfield : Header.field (data.drop (headerStart number)) 3 2 = statedCount data number :=
    congrArg Bytes.bigEndian (Bytes.window_drop _)
  have hcount : header.cellCount = .ofNat (statedCount data number) :=
    (congrArg Header.cellCount hfields).trans (congrArg UInt16.ofNat hfield)
  rw [hcount]
  exact toNat_ofNat_bigEndian_window data _

/-- Once the array is known to be whole, only its pointers decide. -/
theorem exists_decode_eq (h : HasArray data number kind) :
    ∃ header : Header, header.kind = kind ∧ header.cellCount.toNat = statedCount data number ∧
      decode data number =
        match (List.range (statedCount data number)).find? fun i ↦
          !decide (PointsInside data number kind i) with
        | some i => .error (.pointerOutOfRange number (.ofNat (statedPointer data number kind i))
            (arrayStop data number kind) data.length)
        | none => .ok ⟨number, header, statedPointers data number kind, data⟩ := by
  have hheader := h.header_le
  have harray : arrayStart number kind + 2 * statedCount data number ≤ data.length := h.array_le
  have htag : (data.drop (headerStart number))[0]? = some kind.tag := by
    rw [List.getElem?_drop, Nat.add_zero, h.tag_eq]
  have hsize : kind.headerSize ≤ (data.drop (headerStart number)).length := by
    rw [arrayStart] at hheader
    rw [List.length_drop]
    omega
  obtain ⟨header, hdecode, hkind⟩ : ∃ header : Header,
      Header.decode (data.drop (headerStart number)) = .ok header ∧ header.kind = kind :=
    ⟨_, Header.decode_eq_ok htag hsize, rfl⟩
  have hcount := toNat_cellCount hdecode
  have hsplit : Bytes.splitAt? (2 * statedCount data number) (data.drop (arrayStart number kind)) =
      some (data.window (arrayStart number kind) (2 * statedCount data number),
        (data.drop (arrayStart number kind)).drop (2 * statedCount data number)) := by
    refine Bytes.splitAt?_of_le ?_
    rw [List.length_drop]
    omega
  have hstart : headerStart number + kind.headerSize = arrayStart number kind := rfl
  have hstop : arrayStart number kind + 2 * statedCount data number = arrayStop data number kind :=
    rfl
  refine ⟨header, hkind, hcount, ?_⟩
  rw [decode, hdecode]
  simp only [Except.ok_bind, Header.size, hkind, hcount, hstart, hsplit, hstop,
    readPointers_array harray, find?_statedPointers]
  cases (List.range (statedCount data number)).find? fun i ↦
      !decide (PointsInside data number kind i) with
  | none => rfl
  | some i => rfl

theorem hasArray_of_splitAt? {header : Header} {array rest : Bytes}
    (hheader : Header.decode (data.drop (headerStart number)) = .ok header)
    (hsplit : Bytes.splitAt? (2 * header.cellCount.toNat)
      (data.drop (headerStart number + header.size)) = some (array, rest)) :
    HasArray data number header.kind := by
  obtain ⟨htag, hsize⟩ := Header.tag_of_decode hheader
  have hcount := toNat_cellCount hheader
  have hleast : 8 ≤ header.size := header.kind.le_headerSize
  rw [List.length_drop] at hsize
  rw [List.getElem?_drop, Nat.add_zero] at htag
  obtain ⟨harray, hdrop⟩ := Bytes.splitAt?_eq_some_iff.mp hsplit
  have hlength := congrArg List.length hdrop
  rw [List.length_drop, List.length_append, harray, hcount] at hlength
  have hstart : arrayStart number header.kind = headerStart number + header.size := rfl
  refine ⟨htag, ?_, ?_⟩
  · omega
  · change arrayStart number header.kind + 2 * statedCount data number ≤ data.length
    omega

theorem hasArray_of_decode {page : Page} (h : decode data number = .ok page) :
    HasArray data number page.kind := by
  obtain ⟨header, hheader, h⟩ := Except.bind_eq_ok_iff.mp h
  dsimp only at h
  split at h
  · cases h
  · next array rest hsplit =>
    split at h
    · cases h
    · obtain rfl := Except.ok.inj h
      exact hasArray_of_splitAt? hheader hsplit

theorem hasFormat_iff (h : HasArray data number kind) :
    HasFormat data number kind ↔ ((List.range (statedCount data number)).find? fun i ↦
      !decide (PointsInside data number kind i)) = none := by
  rw [List.find?_range_eq_none]
  simp only [Bool.not_not, decide_eq_true_eq]
  exact ⟨fun hformat ↦ hformat.pointsInside, fun hpoints ↦ ⟨h, hpoints⟩⟩

/-- What a page that can be read says, all of it from its bytes. -/
theorem of_decode {page : Page} (h : decode data number = .ok page) :
    HasFormat data number page.kind ∧ page.number = number ∧
      page.header.cellCount.toNat = statedCount data number ∧
      page.pointers = statedPointers data number page.kind ∧ page.data = data := by
  have harray := hasArray_of_decode h
  obtain ⟨header, hkind, hcount, hdecode⟩ := exists_decode_eq harray
  rw [hdecode] at h
  split at h
  · cases h
  · next hfind =>
    have hpage := Except.ok.inj h
    refine ⟨(hasFormat_iff harray).mpr hfind, ?_, ?_, ?_, ?_⟩
    · rw [← hpage]
    · rw [← hpage, hcount]
    · exact congrArg Page.pointers hpage.symm
    · rw [← hpage]

theorem data_of_decode {page : Page} (h : decode data number = .ok page) : page.data = data :=
  (of_decode h).2.2.2.2

theorem exists_page_iff :
    (∃ page, decode data number = .ok page) ↔ ∃ kind, HasFormat data number kind := by
  constructor
  · rintro ⟨page, h⟩
    exact ⟨page.kind, (of_decode h).1⟩
  · rintro ⟨kind, h⟩
    obtain ⟨header, -, -, hdecode⟩ := exists_decode_eq h.toHasArray
    rw [(hasFormat_iff h.toHasArray).mp h] at hdecode
    exact ⟨_, hdecode⟩

/-- Where only pointers are bad, the first of them is named. -/
theorem decode_eq_error {index : Nat} (h : HasArray data number kind)
    (hindex : index < statedCount data number) (hbad : ¬PointsInside data number kind index)
    (hfirst : ∀ i < index, PointsInside data number kind i) :
    decode data number = .error (.pointerOutOfRange number
      (.ofNat (statedPointer data number kind index)) (arrayStop data number kind)
      data.length) := by
  obtain ⟨header, -, -, hdecode⟩ := exists_decode_eq h
  have hfind : ((List.range (statedCount data number)).find? fun i ↦
      !decide (PointsInside data number kind i)) = some index := by
    rw [List.find?_range_eq_some]
    refine ⟨by simpa using hbad, List.mem_range.mpr hindex, fun i hi ↦ ?_⟩
    simpa using hfirst i hi
  rw [hdecode, hfind]

theorem cell?_of_decode {page : Page} (h : decode data number = .ok page) {index : Nat}
    (hindex : index < statedCount data number) :
    page.cell? index =
      some (Cell.decode page.kind data (statedPointer data number page.kind index)) := by
  obtain ⟨-, -, -, hpointers, hdata⟩ := of_decode h
  have hpointer := toNat_ofNat_bigEndian_window data (arrayStart number page.kind + 2 * index)
  rw [cell?, hpointers, statedPointers, List.getElem?_map, List.getElem?_range hindex,
    Option.map_some, Option.map_some, cellAt, hdata, statedPointer, hpointer]

theorem cell?_eq_none_iff {page : Page} (h : decode data number = .ok page) {index : Nat} :
    page.cell? index = none ↔ statedCount data number ≤ index := by
  obtain ⟨-, -, -, hpointers, -⟩ := of_decode h
  rw [cell?, Option.map_eq_none_iff, List.getElem?_eq_none_iff, hpointers, statedPointers,
    List.length_map, List.length_range]

theorem cell?_ne_truncated {page : Page} (h : decode data number = .ok page)
    (index needed available : Nat) :
    page.cell? index ≠ some (.error (.truncated .cell needed available)) := by
  intro hcell
  by_cases hindex : index < statedCount data number
  · have hinside := ((of_decode h).1.pointsInside index hindex).2
    rw [cell?_of_decode h hindex, Cell.decode_eq_read hinside] at hcell
    cases Cell.shortage_of_read (Option.some.inj hcell)
  · rw [(cell?_eq_none_iff h).mpr (Nat.not_lt.mp hindex)] at hcell
    cases hcell

theorem exists_payloadAt {page : Page} (h : decode data number = .ok page) {index : Nat}
    {cell : Cell} {payload : Bytes} (hcell : page.cell? index = some (.ok cell))
    (hpayload : cell.payload? = some payload) :
    ∃ start, arrayStop data number page.kind ≤ start ∧
      cell.PayloadAt data (statedPointer data number page.kind index) start payload := by
  have hindex : index < statedCount data number := by
    by_contra hout
    rw [(cell?_eq_none_iff h).mpr (Nat.not_lt.mp hout)] at hcell
    cases hcell
  have hpointer := ((of_decode h).1.pointsInside index hindex).1
  rw [cell?_of_decode h hindex] at hcell
  obtain ⟨start, hstart⟩ := Cell.exists_payloadAt_of_decode (Option.some.inj hcell) hpayload
  exact ⟨start, hpointer.trans hstart.le_start, hstart⟩

/-- Bytes can be read as a page if and only if they have the format of one. The page has as many
cells as its header states, in the order of the pointers; none of them begins outside of the page,
and their payloads lie behind the array of pointers. If only pointers are bad, the first bad one is
named. -/
theorem decode_format (data : Bytes) (number : UInt32) :
    ((∃ page, decode data number = .ok page) ↔ ∃ kind, HasFormat data number kind) ∧
    (∀ page, decode data number = .ok page →
      HasFormat data number page.kind ∧ page.data = data ∧
      page.header.cellCount.toNat = statedCount data number ∧
      page.pointers.map UInt16.toNat =
        (List.range page.header.cellCount.toNat).map (statedPointer data number page.kind) ∧
      ∀ index,
        (page.cell? index = none ↔ page.header.cellCount.toNat ≤ index) ∧
        page.cell? index = page.cells[index]? ∧
        (∀ needed available, page.cell? index ≠ some (.error (.truncated .cell needed available))) ∧
        ∀ cell payload, page.cell? index = some (.ok cell) → cell.payload? = some payload →
          ∃ start, arrayStop data number page.kind ≤ start ∧
            cell.PayloadAt data (statedPointer data number page.kind index) start payload) ∧
    ∀ kind, HasArray data number kind → ∀ index < statedCount data number,
      ¬PointsInside data number kind index → (∀ i < index, PointsInside data number kind i) →
      decode data number = .error (.pointerOutOfRange number
        (.ofNat (statedPointer data number kind index)) (arrayStop data number kind)
        data.length) := by
  refine ⟨exists_page_iff, ?_, fun kind harray index ↦ decode_eq_error harray⟩
  intro page h
  obtain ⟨hformat, -, hcount, hpointers, hdata⟩ := of_decode h
  refine ⟨hformat, hdata, hcount, ?_, fun index ↦ ⟨?_, ?_, cell?_ne_truncated h index, ?_⟩⟩
  · rw [hpointers, hcount, statedPointers, List.map_map]
    exact List.map_congr_left fun i _ ↦ toNat_ofNat_bigEndian_window data _
  · rw [hcount]
    exact cell?_eq_none_iff h
  · rw [cell?, cells, List.getElem?_map]
  · intro cell payload
    exact exists_payloadAt h

/-- A leaf of a table with two cells. The first pointer is to the last cell, which has no payload
and ends where the page does; the second is to the byte given. -/
def twoCells (pointer : UInt8) : Bytes :=
  [0x0D, 0, 0, 0, 2, 0, 12, 0, 0, 15, 0, pointer, 1, 5, 0xAA, 0, 6]

theorem decode_format_twoCells :
    (∃ page start, decode (twoCells 12) 2 = .ok page ∧
      page.cell? 1 = some (.ok (.tableLeaf 5 [0xAA])) ∧ 12 ≤ start ∧
      Cell.PayloadAt (.tableLeaf 5 [0xAA]) (twoCells 12) 12 start [0xAA]) ∧
    decode (twoCells 11) 2 = .error (.pointerOutOfRange 2 11 12 17) := by
  constructor
  · obtain ⟨-, hpage, -⟩ := decode_format (twoCells 12) 2
    have hdecode : decode (twoCells 12) 2 =
        .ok ⟨2, ⟨.tableLeaf, 0, 2, 12, 0, none⟩, [15, 12], twoCells 12⟩ := by decide +kernel
    have hcell : cell? ⟨2, ⟨.tableLeaf, 0, 2, 12, 0, none⟩, [15, 12], twoCells 12⟩ 1 =
        some (.ok (.tableLeaf 5 [0xAA])) := by decide +kernel
    obtain ⟨-, -, -, -, hcells⟩ := hpage _ hdecode
    obtain ⟨start, hstart, hpayload⟩ := (hcells 1).2.2.2 _ _ hcell rfl
    exact ⟨_, start, hdecode, hcell, hstart, hpayload⟩
  · obtain ⟨-, -, hbad⟩ := decode_format (twoCells 11) 2
    refine hbad .tableLeaf ⟨by decide, by decide, by decide⟩ 1 (by decide) (by decide) ?_
    intro i hi
    obtain rfl : i = 0 := by omega
    decide

end TableFile.Page
