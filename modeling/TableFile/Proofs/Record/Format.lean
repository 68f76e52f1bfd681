import Mathlib.Algebra.Order.BigOperators.Group.List
import TableFile.Proofs.Record
import TableFile.Proofs.Varint.Run

namespace TableFile.Record

def bodySize (types : List SerialType) : Nat :=
  (types.map SerialType.size).sum

@[simp] theorem bodySize_nil : bodySize [] = 0 := rfl

@[simp] theorem bodySize_cons (type : SerialType) (types : List SerialType) :
    bodySize (type :: types) = type.size + bodySize types := List.sum_cons

theorem bodySize_take_succ {types : List SerialType} {type : SerialType} {i : Nat}
    (h : types[i]? = some type) :
    bodySize (types.take (i + 1)) = bodySize (types.take i) + type.size := by
  rw [List.take_add_one, h]
  simp [bodySize]

theorem bodySize_take_mono (types : List SerialType) {i j : Nat} (h : i ≤ j) :
    bodySize (types.take i) ≤ bodySize (types.take j) := by
  rw [bodySize, bodySize, List.map_take, List.map_take]
  exact List.monotone_sum_take (types.map SerialType.size) h

def valuesIn (types : List SerialType) (body : Bytes) : List Value :=
  types.mapIdx fun i type ↦ .decode type (body.window (bodySize (types.take i)) type.size)

theorem valuesIn_cons (type : SerialType) (types : List SerialType) (body : Bytes) :
    valuesIn (type :: types) body =
      .decode type (body.take type.size) :: valuesIn types (body.drop type.size) := by
  simp [valuesIn, List.mapIdx_cons, Bytes.window]

theorem getElem?_valuesIn (types : List SerialType) (body : Bytes) (i : Nat) :
    (valuesIn types body)[i]? = types[i]?.map fun type ↦
      .decode type (body.window (bodySize (types.take i)) type.size) :=
  List.getElem?_mapIdx

theorem valuesIn_congr {types : List SerialType} {body body' : Bytes}
    (h : body'.take (bodySize types) = body.take (bodySize types)) :
    valuesIn types body' = valuesIn types body := by
  refine List.mapIdx_eq_mapIdx_iff.mpr fun i hi ↦ ?_
  have hle := bodySize_take_mono types (Nat.succ_le_of_lt hi)
  rw [bodySize_take_succ (List.getElem?_eq_getElem hi), List.take_length] at hle
  rw [Bytes.window_congr h hle]

theorem readValues_eq_ok_iff {types : List SerialType} {body : Bytes} {values : List Value} :
    readValues types body = .ok values ↔
      bodySize types ≤ body.length ∧ values = valuesIn types body := by
  induction types generalizing body values with
  | nil => simp [readValues, valuesIn, eq_comm]
  | cons type types ih =>
    rw [readValues, bodySize_cons, valuesIn_cons]
    cases hsplit : body.splitAt? type.size with
    | none =>
      have hshort := Bytes.splitAt?_eq_none_iff.mp hsplit
      simp
      omega
    | some parts =>
      obtain ⟨front, rest⟩ := parts
      obtain ⟨hfront, rfl⟩ := Bytes.splitAt?_eq_some_iff.mp hsplit
      simp only [Except.bind_eq_ok_iff, ih, Except.pure_eq_ok, Except.ok.injEq, List.length_append,
        ← hfront, List.take_left, List.drop_left]
      constructor
      · rintro ⟨values, ⟨hle, rfl⟩, rfl⟩
        exact ⟨by omega, rfl⟩
      · rintro ⟨hle, rfl⟩
        exact ⟨_, ⟨by omega, rfl⟩, rfl⟩

theorem exists_run_of_readTypes {payload data : Bytes} {headerSize position stop : Nat}
    {types : List SerialType} (hdata : data = payload.drop position)
    (h : readTypes headerSize position data = .ok (types, stop)) :
    ∃ codes, Varint.Run payload position stop codes ∧ types = codes.map .ofCode := by
  fun_induction readTypes headerSize position data generalizing types stop with
  | case1 => cases h
  | case2 position data hposition code size hread ih =>
    subst hdata
    obtain ⟨⟨types, stop⟩, hrest, h⟩ := Except.bind_eq_ok_iff.mp h
    obtain ⟨rfl, rfl⟩ := Prod.mk.inj (Except.ok.inj h)
    obtain ⟨codes, hrun, rfl⟩ := ih List.drop_drop hrest
    exact ⟨code :: codes, .cons hread hrun, rfl⟩
  | case3 =>
    obtain ⟨rfl, rfl⟩ := Prod.mk.inj (Except.ok.inj h)
    exact ⟨[], .nil _, rfl⟩

/-- Types are read on from where those in front of them end. -/
theorem readTypes_run {payload : Bytes} {position start headerSize : Nat} {codes : List UInt64}
    (h : Varint.Run payload position start codes) (hstart : start ≤ headerSize) :
    readTypes headerSize position (payload.drop position) = do
      let (types, stop) ← readTypes headerSize start (payload.drop start)
      return (codes.map .ofCode ++ types, stop) := by
  induction h with
  | nil stop => cases readTypes headerSize stop (payload.drop stop) <;> rfl
  | @cons first size stop code codes hread hrun ih =>
    have hpos := Varint.read_size_pos hread
    have hle := hrun.start_le
    rw [readTypes_of_read (by omega) hread, List.drop_drop, ih hstart]
    cases readTypes headerSize stop (payload.drop stop) <;> rfl

theorem readTypes_of_run {payload : Bytes} {position headerSize : Nat} {codes : List UInt64}
    (h : Varint.Run payload position headerSize codes) :
    readTypes headerSize position (payload.drop position) =
      .ok (codes.map .ofCode, headerSize) := by
  rw [readTypes_run h le_rfl, readTypes, if_neg (Nat.lt_irrefl headerSize)]
  simp

/-- The frame of a record of the types that have the codes: the size of its header, varints for the
codes that end where the header does, and room for the values. -/
structure HasFrame (payload : Bytes) (headerSize : Nat) (codes : List UInt64) : Prop where
  header : ∃ declared size, Varint.readAt payload 0 = .ok (declared, size) ∧
    declared.toNat = headerSize ∧ size ≤ headerSize ∧ Varint.Run payload size headerSize codes
  header_le : headerSize ≤ payload.length
  body_le : headerSize + bodySize (codes.map .ofCode) ≤ payload.length

def start (record : Record) (index : Nat) : Nat :=
  record.headerSize + bodySize (record.types.take index)

def stop (record : Record) : Nat :=
  record.start record.types.length

theorem decode_eq_ok_iff {payload : Bytes} (h : payload ≠ []) {record : Record} :
    decode payload = .ok record ↔ ∃ codes, HasFrame payload record.headerSize codes ∧
      record.types = codes.map .ofCode ∧
        record.values = valuesIn record.types (payload.drop record.headerSize) := by
  constructor
  · intro hdecode
    rw [decode, if_neg (by simpa using h)] at hdecode
    obtain ⟨⟨declared, size⟩, hread, hdecode⟩ := Except.bind_eq_ok_iff.mp hdecode
    by_cases hbounds : declared.toNat < size ∨ payload.length < declared.toNat
    · simp [hbounds] at hdecode
    have hle : size ≤ declared.toNat ∧ declared.toNat ≤ payload.length := by omega
    simp only [if_neg hbounds, Except.pure_eq_ok] at hdecode
    obtain ⟨⟨types, stop⟩, htypes, hdecode⟩ := Except.bind_eq_ok_iff.mp hdecode
    by_cases hstop : stop = declared.toNat
    · subst hstop
      simp only [ne_eq, not_true_eq_false, if_false] at hdecode
      obtain ⟨values, hvalues, hdecode⟩ := Except.bind_eq_ok_iff.mp hdecode
      obtain rfl := Except.ok.inj hdecode
      obtain ⟨codes, hrun, rfl⟩ := exists_run_of_readTypes rfl htypes
      obtain ⟨hbody, rfl⟩ := readValues_eq_ok_iff.mp hvalues
      rw [List.length_drop, Nat.le_sub_iff_add_le' hle.2] at hbody
      exact ⟨codes, ⟨⟨declared, size, hread, rfl, hle.1, hrun⟩, hle.2, hbody⟩, rfl, rfl⟩
    · simp [hstop] at hdecode
  · rintro ⟨codes, ⟨⟨declared, size, hread, hdeclared, hsize, hrun⟩, hheader, hbody⟩, htypes,
      hvalues⟩
    obtain ⟨headerSize, types, values⟩ := record
    dsimp only at *
    subst hdeclared htypes
    refine decode_eq_ok hread hsize hheader (readTypes_of_run hrun) ?_
    exact readValues_eq_ok_iff.mpr ⟨by rw [List.length_drop]; omega, hvalues⟩

theorem HasFrame.ne_nil {payload : Bytes} {headerSize : Nat} {codes : List UInt64}
    (h : HasFrame payload headerSize codes) : payload ≠ [] := by
  obtain ⟨declared, size, hread, -⟩ := h.header
  have hpos : 0 < size := Varint.read_size_pos hread
  have hle := (Varint.read_local hread).1
  intro hnil
  rw [hnil, List.drop_nil, List.length_nil] at hle
  omega

theorem HasFrame.decode_eq {payload : Bytes} {headerSize : Nat} {codes : List UInt64}
    (h : HasFrame payload headerSize codes) :
    decode payload = .ok ⟨headerSize, codes.map .ofCode,
      valuesIn (codes.map .ofCode) (payload.drop headerSize)⟩ :=
  (decode_eq_ok_iff h.ne_nil).mpr ⟨codes, h, rfl, rfl⟩

theorem stop_eq (record : Record) : record.stop = record.headerSize + bodySize record.types := by
  rw [stop, start, List.take_length]

theorem start_mono (record : Record) : Monotone record.start :=
  fun _ _ h ↦ Nat.add_le_add_left (bodySize_take_mono record.types h) _

theorem start_succ {record : Record} {i : Nat} {type : SerialType}
    (h : record.types[i]? = some type) : record.start (i + 1) = record.start i + type.size := by
  rw [start, start, bodySize_take_succ h, Nat.add_assoc]

/-- Two payloads with the same bytes up to the end of the last value hold the same record. -/
theorem decode_congr {payload payload' : Bytes} {record : Record} (h : payload ≠ [])
    (hdecode : decode payload = .ok record) (hstop : record.stop ≤ payload'.length)
    (htake : payload'.take record.stop = payload.take record.stop) :
    decode payload' = .ok record := by
  obtain ⟨codes, ⟨⟨declared, size, hread, hdeclared, hsize, hrun⟩, -, -⟩, htypes, hvalues⟩ :=
    (decode_eq_ok_iff h).mp hdecode
  rw [stop_eq] at hstop htake
  have hpos : 0 < size := Varint.read_size_pos hread
  have hne : payload' ≠ [] := List.ne_nil_of_length_pos (by omega)
  have hread' : Varint.readAt payload' 0 = .ok (declared, size) :=
    Varint.readAt_congr hread (Bytes.window_congr htake (by omega))
  have hrun' : Varint.Run payload' size record.headerSize codes :=
    hrun.congr (Bytes.take_congr htake (Nat.le_add_right _ _))
  have hvalues' : valuesIn record.types (payload'.drop record.headerSize) =
      valuesIn record.types (payload.drop record.headerSize) :=
    valuesIn_congr (Bytes.window_congr htake le_rfl)
  refine (decode_eq_ok_iff hne).mpr
    ⟨codes, ⟨⟨declared, size, hread', hdeclared, hsize, hrun'⟩, ?_, ?_⟩, htypes, ?_⟩
  · exact (Nat.le_add_right _ _).trans hstop
  · rwa [← htypes]
  · rw [hvalues, hvalues']

/-- A payload holds a record of a header and types if and only if it has the frame of one. The
values of the record stand behind its header one after another, each in as many bytes as its type
has, and nothing behind the last of them matters. -/
theorem decode_frame {payload : Bytes} (h : payload ≠ []) :
    (∀ headerSize types, (∃ values, decode payload = .ok ⟨headerSize, types, values⟩) ↔
      ∃ codes, HasFrame payload headerSize codes ∧ types = codes.map .ofCode) ∧
    ∀ record, decode payload = .ok record →
      record.values.length = record.types.length ∧
      (∀ i type, record.types[i]? = some type →
        record.values[i]? = some (.decode type (payload.window (record.start i) type.size)) ∧
        record.start i + type.size = record.start (i + 1)) ∧
      (∀ i j, i < j → record.start (i + 1) ≤ record.start j) ∧
      record.stop ≤ payload.length ∧
      ∀ rest, decode (payload.take record.stop ++ rest) = .ok record := by
  constructor
  · intro headerSize types
    constructor
    · rintro ⟨values, hdecode⟩
      obtain ⟨codes, hframe, htypes, -⟩ := (decode_eq_ok_iff h).mp hdecode
      exact ⟨codes, hframe, htypes⟩
    · rintro ⟨codes, hframe, htypes⟩
      exact ⟨valuesIn types (payload.drop headerSize),
        (decode_eq_ok_iff h).mpr ⟨codes, hframe, htypes, rfl⟩⟩
  · intro record hdecode
    obtain ⟨codes, hframe, htypes, hvalues⟩ := (decode_eq_ok_iff h).mp hdecode
    have hstop : record.stop ≤ payload.length := by
      rw [stop_eq, htypes]
      exact hframe.body_le
    refine ⟨?_, ?_, ?_, hstop, ?_⟩
    · rw [hvalues, valuesIn, List.length_mapIdx]
    · intro i type htype
      refine ⟨?_, (start_succ htype).symm⟩
      rw [hvalues, getElem?_valuesIn, htype, Option.map_some, Bytes.window_drop, start]
    · exact fun i j hij ↦ record.start_mono hij
    · intro rest
      have hlength : (payload.take record.stop).length = record.stop := List.length_take_of_le hstop
      refine decode_congr h hdecode ?_ (List.take_left' hlength)
      rw [List.length_append, hlength]
      exact Nat.le_add_right _ _

/-- A null, the integer 42 and the text "Fuji", with one more byte behind them. -/
def fruit : Bytes :=
  [0x04, 0x00, 0x01, 0x15, 0x2A, 0x46, 0x75, 0x6A, 0x69, 0xFF]

theorem decode_frame_fruit :
    fruit ≠ [] ∧ decode fruit =
      .ok ⟨4, [.null, .integer .one, .text 4], [.null, .integer 42, .text "Fuji"]⟩ ∧
    decode (fruit.take 9 ++ [1, 2]) =
      .ok ⟨4, [.null, .integer .one, .text 4], [.null, .integer 42, .text "Fuji"]⟩ ∧
    ∃ codes, HasFrame fruit 4 codes ∧
      [.null, .integer .one, .text 4] = codes.map SerialType.ofCode := by
  have hne : fruit ≠ [] := by decide
  have hdecode : decode fruit =
      .ok ⟨4, [.null, .integer .one, .text 4], [.null, .integer 42, .text "Fuji"]⟩ := by
    decide +kernel
  obtain ⟨hiff, hdescribed⟩ := decode_frame hne
  obtain ⟨-, -, -, -, hrest⟩ := hdescribed _ hdecode
  exact ⟨hne, hdecode, hrest [1, 2], (hiff _ _).mp ⟨_, hdecode⟩⟩

end TableFile.Record
