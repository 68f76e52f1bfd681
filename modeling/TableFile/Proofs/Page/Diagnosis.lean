import TableFile.Proofs.Page.CellExtent
import TableFile.Proofs.Page.Format
import TableFile.Proofs.Record.Format
import TableFile.Proofs.Varint.Groups

namespace TableFile

/-- The numbers in the error are such that what it says of them holds. -/
def Error.BornOut : Error → Prop
  | truncated _ needed available => available < needed
  | cutShort _ expected actual => actual < expected
  | pointerOutOfRange _ pointer least limit => pointer.toNat < least ∨ limit ≤ pointer.toNat
  | payloadTooLarge declared available => available < declared.toNat
  | _ => True

/-- Reading succeeds exactly where what it reads is whole, and fails with an error that its own
numbers bear out. -/
structure Truthful {α : Type} (whole : Prop) (outcome : Except Error α) : Prop where
  exists_ok_iff : (∃ a, outcome = .ok a) ↔ whole
  bornOut : ∀ e, outcome = .error e → e.BornOut

variable {α β : Type} {data : Bytes} {e : Error}

theorem Error.bornOut_of_bind {x : Except Error α} {f : α → Except Error β}
    (hx : ∀ e, x = .error e → e.BornOut) (hf : ∀ a, x = .ok a → ∀ e, f a = .error e → e.BornOut)
    (h : x >>= f = .error e) : e.BornOut := by
  rcases Except.bind_eq_error_iff.mp h with h | ⟨a, ha, h⟩
  · exact hx e h
  · exact hf a ha e h

namespace Varint

theorem bornOut_of_read (h : read data = .error e) : e.BornOut := by
  rw [read] at h
  split at h
  · cases h
  · obtain rfl := Except.error.inj h
    exact Nat.lt_succ_self _

theorem truthful_readAt (data : Bytes) (offset : Nat) :
    Truthful (IsWhole (data.drop offset)) (readAt data offset) := by
  refine ⟨?_, fun e ↦ bornOut_of_read⟩
  rw [isWhole_iff, readAt]
  constructor
  · rintro ⟨a, hread⟩
    by_contra hshort
    rw [read_eq_error (Nat.not_le.mp hshort)] at hread
    cases hread
  · intro hinside
    obtain ⟨value, hread, -⟩ := exists_read_eq_ok hinside
    exact ⟨_, hread⟩

end Varint

namespace Record

theorem bornOut_of_readTypes {headerSize position : Nat}
    (h : readTypes headerSize position data = .error e) : e.BornOut := by
  fun_induction readTypes headerSize position data with
  | case1 position data hposition e' hread =>
    obtain rfl := Except.error.inj h
    exact Varint.bornOut_of_read hread
  | case2 position data hposition code size hread ih =>
    rcases Except.bind_eq_error_iff.mp h with hrest | ⟨_, -, hpure⟩
    · exact ih hrest
    · cases hpure
  | case3 => cases h

theorem bornOut_of_readValues {types : List SerialType} {body : Bytes}
    (h : readValues types body = .error e) : e.BornOut := by
  induction types generalizing body with
  | nil => cases h
  | cons type types ih =>
    rw [readValues] at h
    split at h
    · next hsplit =>
      obtain rfl := Except.error.inj h
      exact Bytes.splitAt?_eq_none_iff.mp hsplit
    · rcases Except.bind_eq_error_iff.mp h with hrest | ⟨_, -, hpure⟩
      · exact ih hrest
      · cases hpure

theorem bornOut_of_decode {payload : Bytes} (h : decode payload = .error e) : e.BornOut := by
  rw [decode] at h
  split at h
  · cases h
  refine Error.bornOut_of_bind (fun e ↦ Varint.bornOut_of_read) (fun header _ e h ↦ ?_) h
  dsimp only at h
  split at h
  · obtain rfl := Except.error.inj h
    exact trivial
  refine Error.bornOut_of_bind (fun e ↦ bornOut_of_readTypes) (fun types _ e h ↦ ?_) h
  split at h
  · obtain rfl := Except.error.inj h
    exact trivial
  refine Error.bornOut_of_bind (fun e ↦ bornOut_of_readValues) (fun values _ e h ↦ ?_) h
  cases h

theorem truthful_decode (payload : Bytes) :
    Truthful (payload = [] ∨ ∃ headerSize codes, HasFrame payload headerSize codes)
      (decode payload) := by
  refine ⟨?_, fun e ↦ bornOut_of_decode⟩
  by_cases hne : payload = []
  · subst hne
    exact iff_of_true ⟨_, rfl⟩ (.inl rfl)
  constructor
  · rintro ⟨record, hdecode⟩
    obtain ⟨codes, hframe, -⟩ := (decode_eq_ok_iff hne).mp hdecode
    exact .inr ⟨_, codes, hframe⟩
  · rintro (hnil | ⟨headerSize, codes, hframe⟩)
    · exact absurd hnil hne
    · exact ⟨_, hframe.decode_eq⟩

end Record

namespace Cell

theorem Shortage.bornOut (h : Shortage e) : e.BornOut := by
  cases h with
  | varint available => exact Nat.lt_succ_self available
  | leftChild h => exact h
  | payload h => exact h

theorem truthful_decode (kind : Page.Kind) (page : Bytes) (offset : Nat) :
    Truthful (∃ cell : Cell, cell.kind = kind ∧ ∃ size, cell.Occupies page offset size)
      (decode kind page offset) := by
  refine ⟨exists_congr fun cell ↦ decode_eq_ok_iff_occupies, fun e h ↦ ?_⟩
  rw [decode] at h
  split at h
  · obtain rfl := Except.error.inj h
    exact Nat.zero_lt_one
  · exact (shortage_of_read h).bornOut

end Cell

namespace Page

theorem Kind.eq_of_ofTag_eq_error {tag : UInt8} (h : ofTag tag = .error e) :
    e = .unrecognizedPageKind tag := by
  by_cases htag : ∃ kind : Kind, tag = kind.tag
  · obtain ⟨kind, rfl⟩ := htag
    rw [ofTag_tag] at h
    cases h
  · rw [ofTag_eq_error (not_exists.mp htag)] at h
    exact (Except.error.inj h).symm

theorem Header.eq_of_decode_eq_error (h : decode data = .error e) :
    (∃ needed available, e = .truncated .pageHeader needed available ∧ available < needed) ∨
      ∃ tag, e = .unrecognizedPageKind tag := by
  cases data with
  | nil => exact .inl ⟨8, 0, (Except.error.inj h).symm, by decide⟩
  | cons tag data =>
    rcases Except.bind_eq_error_iff.mp h with htag | ⟨kind, -, h⟩
    · exact .inr ⟨tag, Kind.eq_of_ofTag_eq_error htag⟩
    · dsimp only at h
      split at h
      · next hshort => exact .inl ⟨_, _, (Except.error.inj h).symm, hshort⟩
      · cases h

theorem Header.truthful_decode (data : Bytes) :
    Truthful (∃ kind : Kind, data[0]? = some kind.tag ∧ kind.headerSize ≤ data.length)
      (decode data) := by
  refine ⟨⟨?_, ?_⟩, fun e h ↦ ?_⟩
  · rintro ⟨header, hdecode⟩
    exact ⟨header.kind, tag_of_decode hdecode⟩
  · rintro ⟨kind, htag, hsize⟩
    exact ⟨_, decode_eq_ok htag hsize⟩
  · obtain ⟨needed, available, rfl, hlt⟩ | ⟨tag, rfl⟩ := eq_of_decode_eq_error h
    · exact hlt
    · trivial

/-- A pointer that is reported is one of the page's, and the bounds are those between which its
cells lie. -/
def PointerNamed (data : Bytes) (number : UInt32) (e : Error) : Prop :=
  ∀ page pointer least limit, e = .pointerOutOfRange page pointer least limit →
    page = number ∧ limit = data.length ∧ ∃ kind, HasArray data number kind ∧
      least = arrayStop data number kind ∧ ∃ index < statedCount data number,
        pointer.toNat = statedPointer data number kind index

variable {number : UInt32}

/-- If bytes are not a page, either what is in front of the pointers is not whole, or one of them
is bad. -/
theorem eq_of_decode_eq_error (h : decode data number = .error e) :
    (∃ part needed available, e = .truncated part needed available ∧ available < needed) ∨
      (∃ tag, e = .unrecognizedPageKind tag) ∨
      ∃ kind, HasArray data number kind ∧ ∃ index < statedCount data number,
        ¬PointsInside data number kind index ∧ e = .pointerOutOfRange number
          (.ofNat (statedPointer data number kind index)) (arrayStop data number kind)
            data.length := by
  rcases Except.bind_eq_error_iff.mp h with hheader | ⟨header, hheader, hrest⟩
  · obtain ⟨needed, available, he⟩ | htag := Header.eq_of_decode_eq_error hheader
    · exact .inl ⟨.pageHeader, needed, available, he⟩
    · exact .inr (.inl htag)
  · dsimp only at hrest
    split at hrest
    · next hsplit =>
      have hshort := Bytes.splitAt?_eq_none_iff.mp hsplit
      rw [List.length_drop] at hshort
      exact .inl ⟨_, _, _, (Except.error.inj hrest).symm, hshort⟩
    · next array rest hsplit =>
      have harray := hasArray_of_splitAt? hheader hsplit
      obtain ⟨_, -, -, hdecode⟩ := exists_decode_eq harray
      rw [hdecode] at h
      split at h
      · next index hfind =>
        obtain ⟨hbad, hindex, -⟩ := List.find?_range_eq_some.mp hfind
        refine .inr (.inr ⟨header.kind, harray, index, List.mem_range.mp hindex, ?_, ?_⟩)
        · simpa using hbad
        · exact (Except.error.inj h).symm
      · cases h

theorem truthful_decode (data : Bytes) (number : UInt32) :
    Truthful (∃ kind, HasFormat data number kind) (decode data number) := by
  refine ⟨exists_page_iff, fun e h ↦ ?_⟩
  obtain ⟨part, needed, available, rfl, hlt⟩ | ⟨tag, rfl⟩ | ⟨kind, -, index, -, hbad, rfl⟩ :=
    eq_of_decode_eq_error h
  · exact hlt
  · trivial
  · have hpointer := toNat_ofNat_bigEndian_window data (arrayStart number kind + 2 * index)
    rw [← statedPointer] at hpointer
    rw [PointsInside] at hbad
    rw [Error.BornOut, hpointer]
    omega

theorem pointerNamed_of_decode (h : decode data number = .error e) :
    PointerNamed data number e := by
  intro page pointer least limit he
  obtain ⟨_, _, _, rfl, -⟩ | ⟨tag, rfl⟩ | ⟨kind, harray, index, hindex, -, rfl⟩ :=
    eq_of_decode_eq_error h
  · cases he
  · cases he
  · obtain ⟨rfl, rfl, rfl, rfl⟩ := Error.pointerOutOfRange.inj he
    exact ⟨rfl, rfl, kind, harray, rfl, index, hindex, toNat_ofNat_bigEndian_window data _⟩

variable {file : Bytes} {pageSize : Nat}

def windowOf (file : Bytes) (pageSize : Nat) (number : UInt32) : Bytes :=
  file.window ((number.toNat - 1) * pageSize) pageSize

theorem one_le_toNat (h : number ≠ 0) : 1 ≤ number.toNat :=
  Nat.pos_of_ne_zero fun hzero ↦ h (UInt32.toNat_inj.mp hzero)

theorem stop_eq (h : number ≠ 0) (pageSize : Nat) :
    (number.toNat - 1) * pageSize + pageSize = number.toNat * pageSize := by
  rw [← Nat.succ_mul, Nat.succ_eq_add_one, Nat.sub_add_cancel (one_le_toNat h)]

theorem length_windowOf_eq_iff (h : number ≠ 0) :
    (windowOf file pageSize number).length = pageSize ↔ number.toNat * pageSize ≤ file.length := by
  have hpos := one_le_toNat h
  have hstop := stop_eq h pageSize
  rw [windowOf, Bytes.window, List.length_take, List.length_drop, min_eq_left_iff]
  obtain rfl | hsize := Nat.eq_zero_or_pos pageSize
  · simp
  · omega

theorem ofFile_eq_decode (h : number ≠ 0) (hinside : number.toNat * pageSize ≤ file.length) :
    ofFile file pageSize number = decode (windowOf file pageSize number) number := by
  rw [ofFile, if_neg h]
  exact if_pos ((length_windowOf_eq_iff h).mpr hinside)

theorem ofFile_eq_error (h : number ≠ 0) (hshort : ¬number.toNat * pageSize ≤ file.length) :
    ofFile file pageSize number =
      .error (.cutShort number pageSize (windowOf file pageSize number).length) := by
  rw [ofFile, if_neg h]
  exact if_neg fun hlength ↦ hshort ((length_windowOf_eq_iff h).mp hlength)

theorem truthful_ofFile (file : Bytes) (pageSize : Nat) (number : UInt32) :
    Truthful (number ≠ 0 ∧ number.toNat * pageSize ≤ file.length ∧
        ∃ kind, HasFormat (windowOf file pageSize number) number kind)
      (ofFile file pageSize number) := by
  by_cases hzero : number = 0
  · rw [ofFile, if_pos hzero]
    refine ⟨iff_of_false (by simp) fun h ↦ h.1 hzero, fun e h ↦ ?_⟩
    obtain rfl := Except.error.inj h
    trivial
  by_cases hinside : number.toNat * pageSize ≤ file.length
  · rw [ofFile_eq_decode hzero hinside]
    obtain ⟨hiff, hborn⟩ := truthful_decode (windowOf file pageSize number) number
    exact ⟨by simp [hiff, hzero, hinside], hborn⟩
  · rw [ofFile_eq_error hzero hinside]
    refine ⟨iff_of_false (by simp) fun h ↦ hinside h.2.1, fun e h ↦ ?_⟩
    obtain rfl := Except.error.inj h
    exact lt_of_le_of_ne (List.length_take_le _ _)
      fun hlength ↦ hinside ((length_windowOf_eq_iff hzero).mp hlength)

theorem pointerNamed_of_ofFile (h : ofFile file pageSize number = .error e) :
    PointerNamed (windowOf file pageSize number) number e := by
  by_cases hzero : number = 0
  · rw [ofFile, if_pos hzero] at h
    obtain rfl := Except.error.inj h
    intro _ _ _ _ he
    cases he
  by_cases hinside : number.toNat * pageSize ≤ file.length
  · rw [ofFile_eq_decode hzero hinside] at h
    exact pointerNamed_of_decode h
  · rw [ofFile_eq_error hzero hinside] at h
    obtain rfl := Except.error.inj h
    intro _ _ _ _ he
    cases he

/-- Each reader succeeds exactly where the bytes are what it reads, so that nothing whole is said to
be cut short; where it fails, the numbers in its error bear it out, and a pointer in it is one of
the page's. -/
theorem diagnosis_truthful :
    (∀ data offset, Truthful (Varint.IsWhole (data.drop offset)) (Varint.readAt data offset)) ∧
    (∀ payload, Truthful (payload = [] ∨ ∃ headerSize codes,
      Record.HasFrame payload headerSize codes) (Record.decode payload)) ∧
    (∀ kind page offset, Truthful (∃ cell : Cell, cell.kind = kind ∧
      ∃ size, cell.Occupies page offset size) (Cell.decode kind page offset)) ∧
    (∀ data : Bytes, Truthful (∃ kind : Kind, data[0]? = some kind.tag ∧
      kind.headerSize ≤ data.length) (Header.decode data)) ∧
    (∀ data number, Truthful (∃ kind, HasFormat data number kind) (decode data number) ∧
      ∀ e, decode data number = .error e → PointerNamed data number e) ∧
    ∀ file pageSize number, Truthful (number ≠ 0 ∧ number.toNat * pageSize ≤ file.length ∧
        ∃ kind, HasFormat (windowOf file pageSize number) number kind)
      (ofFile file pageSize number) ∧
      ∀ e, ofFile file pageSize number = .error e →
        PointerNamed (windowOf file pageSize number) number e := by
  refine ⟨Varint.truthful_readAt, Record.truthful_decode, Cell.truthful_decode,
    Header.truthful_decode, fun data number ↦ ⟨truthful_decode data number, ?_⟩,
    fun file pageSize number ↦ ⟨truthful_ofFile file pageSize number, ?_⟩⟩
  · exact fun e ↦ pointerNamed_of_decode
  · exact fun e ↦ pointerNamed_of_ofFile

/-- In a file of two pages, the second has a pointer into its own array. -/
theorem diagnosis_truthful_twoCells :
    ofFile (twoCells 12 ++ twoCells 11) 17 2 = .error (.pointerOutOfRange 2 11 12 17) ∧
    PointerNamed (twoCells 11) 2 (.pointerOutOfRange 2 11 12 17) ∧
    (¬∃ kind, HasFormat (twoCells 11) 2 kind) ∧
    ofFile (twoCells 12 ++ twoCells 11) 17 3 = .error (.cutShort 3 17 0) ∧
    (Error.cutShort 3 17 0).BornOut := by
  obtain ⟨-, -, -, -, hpage, hfile⟩ := diagnosis_truthful
  have hpointer : ofFile (twoCells 12 ++ twoCells 11) 17 2 =
      .error (.pointerOutOfRange 2 11 12 17) := by decide +kernel
  have hshort : ofFile (twoCells 12 ++ twoCells 11) 17 3 = .error (.cutShort 3 17 0) := by
    decide +kernel
  have hdecode : decode (twoCells 11) 2 = .error (.pointerOutOfRange 2 11 12 17) := by
    decide +kernel
  refine ⟨hpointer, (hfile _ _ _).2 _ hpointer, fun hformat ↦ ?_, hshort,
    (hfile _ _ _).1.bornOut _ hshort⟩
  obtain ⟨page, hok⟩ := (hpage _ _).1.exists_ok_iff.mpr hformat
  rw [hdecode] at hok
  cases hok

end Page

end TableFile
