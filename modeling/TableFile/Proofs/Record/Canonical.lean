import TableFile.Proofs.Record.Format
import TableFile.Proofs.Value.TwosComplement
import TableFile.Proofs.Varint.Shortest

namespace TableFile

namespace Varint

def IsShortest (value : UInt64) (size : Nat) : Prop :=
  ∀ data size', read data = .ok (value, size') → size ≤ size'

theorem isShortest_encode (value : UInt64) : IsShortest value (encode value).length :=
  fun _ _ h ↦ length_encode_le_of_read h

theorem IsShortest.eq_length_encode {data : Bytes} {value : UInt64} {size : Nat}
    (h : IsShortest value size) (hread : read data = .ok (value, size)) :
    size = (encode value).length := by
  have hencode := read_encode value []
  exact le_antisymm (h _ _ hencode) (length_encode_le_of_read hread)

inductive ShortestRun (data : Bytes) : (start stop : Nat) → List UInt64 → Prop
  | nil (stop : Nat) : ShortestRun data stop stop []
  | cons {start size stop : Nat} {value : UInt64} {values : List UInt64}
      (hread : readAt data start = .ok (value, size)) (hshortest : IsShortest value size)
      (hrun : ShortestRun data (start + size) stop values) :
      ShortestRun data start stop (value :: values)

variable {data : Bytes} {start stop : Nat} {values : List UInt64}

theorem ShortestRun.run (h : ShortestRun data start stop values) :
    Run data start stop values := by
  induction h with
  | nil => exact .nil _
  | cons hread _ _ ih => exact .cons hread ih

/-- The bytes of such varints are those that the numbers are written as. -/
theorem ShortestRun.drop_eq (h : ShortestRun data start stop values) :
    data.drop start = values.flatMap encode ++ data.drop stop := by
  induction h with
  | nil => rfl
  | @cons start size stop value values hread hshortest hrun ih =>
    obtain rfl := hshortest.eq_length_encode hread
    have hfirst := take_eq_encode hread
    have hsplit := List.take_append_drop (encode value).length (data.drop start)
    rw [hfirst, List.drop_drop, ih] at hsplit
    rw [← hsplit, List.flatMap_cons, List.append_assoc]

theorem shortestRun_of_drop_eq {rest : Bytes}
    (h : data.drop start = values.flatMap encode ++ rest) :
    ShortestRun data start (start + (values.flatMap encode).length) values := by
  induction values generalizing start with
  | nil => exact .nil start
  | cons value values ih =>
    rw [List.flatMap_cons, List.append_assoc] at h
    have hread : readAt data start = .ok (value, (encode value).length) := by
      rw [readAt, h]
      exact read_encode value _
    have hrest : data.drop (start + (encode value).length) = values.flatMap encode ++ rest := by
      rw [← List.drop_drop, h, List.drop_left]
    rw [List.flatMap_cons, List.length_append, ← Nat.add_assoc]
    exact .cons hread (isShortest_encode value) (ih hrest)

theorem Run.unique {values' : List UInt64} (h : Run data start stop values)
    (h' : Run data start stop values') : values = values' := by
  induction h generalizing values' with
  | nil stop =>
    cases h' with
    | nil => rfl
    | cons hread hrun =>
      have hpos := read_size_pos hread
      have hle := hrun.start_le
      omega
  | @cons start size stop value values hread hrun ih =>
    cases h' with
    | nil =>
      have hpos := read_size_pos hread
      have hle := hrun.start_le
      omega
    | cons hread' hrun' =>
      rw [hread] at hread'
      obtain ⟨rfl, rfl⟩ := Prod.mk.inj (Except.ok.inj hread')
      rw [ih hrun']

end Varint

def Value.bytesAs (type : SerialType) : Value → Bytes
  | integer n => .ofInt type.size n.toInt
  | float bits => .ofNat 8 bits.toNat
  | blob data => data
  | text content => Text.toUtf8 content
  | _ => []

theorem Value.bytesAs_decode {type : SerialType} {body : Bytes} (h : body.length = type.size)
    (hutf8 : ∀ length, type = .text length → Text.IsUtf8 body) :
    (decode type body).bytesAs type = body := by
  cases type with
  | null | zero | one | reserved => exact (List.length_eq_zero_iff.mp h).symm
  | integer width =>
    have hform := ofInt_signed (h.trans_le width.bytes_le)
    rw [h] at hform
    exact hform
  | float =>
    have hlt : body.bigEndian < UInt64.size := by
      have := Bytes.bigEndian_lt body
      rw [h] at this
      exact this
    have hform := Bytes.ofNat_bigEndian body
    rw [h] at hform
    rw [decode, bytesAs, UInt64.toNat_ofNat_of_lt' hlt]
    exact hform
  | blob => rfl
  | text length => exact (hutf8 length rfl).toUtf8_ofUtf8

namespace Record

def bodyAs (types : List SerialType) (values : List Value) : Bytes :=
  (List.zipWith (fun type value ↦ value.bytesAs type) types values).flatten

theorem bodyAs_cons (type : SerialType) (types : List SerialType) (value : Value)
    (values : List Value) :
    bodyAs (type :: types) (value :: values) = value.bytesAs type ++ bodyAs types values := rfl

theorem bodyAs_valuesIn {types : List SerialType} {body : Bytes}
    (h : body.length = bodySize types)
    (hutf8 : ∀ i length, types[i]? = some (.text length) →
      Text.IsUtf8 (body.window (bodySize (types.take i)) length)) :
    bodyAs types (valuesIn types body) = body := by
  induction types generalizing body with
  | nil => exact (List.length_eq_zero_iff.mp h).symm
  | cons type types ih =>
    rw [bodySize_cons] at h
    have hfirst : (body.take type.size).length = type.size := List.length_take_of_le (by omega)
    have hrest : (body.drop type.size).length = bodySize types := by
      rw [List.length_drop]
      omega
    have hvalue : (Value.decode type (body.take type.size)).bytesAs type = body.take type.size := by
      apply Value.bytesAs_decode hfirst
      rintro length rfl
      exact hutf8 0 length rfl
    have hvalues : bodyAs types (valuesIn types (body.drop type.size)) = body.drop type.size := by
      apply ih hrest
      intro i length hi
      have hwindow := hutf8 (i + 1) length hi
      rwa [List.take_succ_cons, bodySize_cons, ← Bytes.window_drop] at hwindow
    rw [valuesIn_cons, bodyAs_cons, hvalue, hvalues, List.take_append_drop]

/-- Nothing in the payload is left open by the record: the numbers of the header are in shortest
form, the payload ends with the last value, and the texts are UTF-8. -/
structure IsCanonical (payload : Bytes) (record : Record) : Prop where
  header : ∃ numbers, Varint.ShortestRun payload 0 record.headerSize numbers
  ends : record.stop = payload.length
  isUtf8 : ∀ i length, record.types[i]? = some (.text length) →
    Text.IsUtf8 (payload.window (record.start i) length)

def canonical (record : Record) : Bytes :=
  Varint.encode (.ofNat record.headerSize) ++
    record.types.flatMap (fun type ↦ Varint.encode type.code) ++
      bodyAs record.types record.values

theorem IsCanonical.eq_canonical {payload : Bytes} {record : Record}
    (hcanonical : IsCanonical payload record) (h : payload ≠ [])
    (hdecode : decode payload = .ok record) : payload = record.canonical := by
  obtain ⟨codes, ⟨⟨declared, size, hread, hdeclared, -, hrun⟩, hheader, -⟩, htypes, hvalues⟩ :=
    (decode_eq_ok_iff h).mp hdecode
  obtain ⟨⟨numbers, hshortest⟩, hstop, hutf8⟩ := hcanonical
  have hnumbers : numbers = declared :: codes := by
    apply hshortest.run.unique
    refine .cons hread ?_
    rwa [Nat.zero_add]
  subst hnumbers
  have hsize : UInt64.ofNat record.headerSize = declared := by
    rw [← hdeclared, UInt64.ofNat_toNat]
  have hcodes : (record.types.flatMap fun type ↦ Varint.encode type.code) =
      codes.flatMap Varint.encode := by
    rw [htypes, List.flatMap_map]
    simp only [SerialType.code_ofCode]
  have hlength : (payload.drop record.headerSize).length = bodySize record.types := by
    rw [stop_eq] at hstop
    rw [List.length_drop]
    omega
  have hbody : bodyAs record.types record.values = payload.drop record.headerSize := by
    rw [hvalues]
    apply bodyAs_valuesIn hlength
    intro i length hi
    rw [Bytes.window_drop]
    exact hutf8 i length hi
  have hpayload := hshortest.drop_eq
  rw [List.drop_zero, List.flatMap_cons] at hpayload
  rw [canonical, hsize, hcodes, hbody, ← hpayload]

theorem length_flatMap_stored (values : List Value) :
    (values.flatMap Value.stored).length = bodySize (values.map Value.storedType) := by
  rw [List.length_flatMap, bodySize, List.map_map]
  exact congrArg List.sum (List.map_congr_left fun value _ ↦ value.length_stored)

theorem window_flatMap_stored {values : List Value} {value : Value} {i : Nat}
    (h : values[i]? = some value) :
    Bytes.window (values.flatMap Value.stored) (bodySize ((values.map Value.storedType).take i))
      value.storedType.size = value.stored := by
  induction values generalizing i with
  | nil => cases h
  | cons first values ih =>
    cases i with
    | zero =>
      obtain rfl := Option.some.inj h
      rw [List.flatMap_cons, ← first.length_stored]
      exact List.take_left
    | succ i =>
      rw [List.map_cons, List.take_succ_cons, bodySize_cons, List.flatMap_cons,
        ← first.length_stored, ← Bytes.window_drop, List.drop_left]
      exact ih h

theorem isUtf8_stored {value : Value} {length : Nat} (h : value.storedType = .text length) :
    Text.IsUtf8 value.stored := by
  cases value with
  | text content => exact ⟨content, rfl⟩
  | integer n =>
    rw [Value.storedType] at h
    split_ifs at h
  | _ => cases h

theorem exists_codes_of_encode? {values : List Value} {payload : Bytes}
    (h : encode? values = some payload) :
    ∃ codes : List UInt64, (codes.flatMap Varint.encode).length + 1 < 128 ∧
      payload = .ofNat ((codes.flatMap Varint.encode).length + 1) ::
        (codes.flatMap Varint.encode ++ values.flatMap Value.stored) := by
  simp only [encode?, Option.ite_none_right_eq_some, Option.some.injEq] at h
  obtain ⟨hshort, rfl⟩ := h
  refine ⟨values.map fun value ↦ value.storedType.code, ?_, ?_⟩
  · rwa [List.flatMap_map]
  · rw [List.flatMap_map, List.cons_append]

theorem shortestRun_of_encode? {values : List Value} {payload : Bytes} {record : Record}
    (h : encode? values = some payload) (hdecode : decode payload = .ok record) :
    (∃ numbers, Varint.ShortestRun payload 0 record.headerSize numbers) ∧
      record.headerSize ≤ payload.length ∧
        payload.drop record.headerSize = values.flatMap Value.stored := by
  obtain ⟨codes, hshort, rfl⟩ := exists_codes_of_encode? h
  have hfirst := Varint.read_ofNat_cons hshort
    (codes.flatMap Varint.encode ++ values.flatMap Value.stored)
  obtain ⟨_, hframe, -⟩ := (decode_eq_ok_iff (List.cons_ne_nil _ _)).mp hdecode
  obtain ⟨declared, size, hread, hdeclared, -⟩ := hframe.header
  obtain ⟨rfl, rfl⟩ := Prod.mk.inj (Except.ok.inj (hread.symm.trans hfirst))
  have hsize : record.headerSize = 0 + 1 + (codes.flatMap Varint.encode).length := by
    rw [← hdeclared, UInt64.toNat_ofNat_of_lt' (hshort.trans (by decide))]
    omega
  refine ⟨⟨_ :: codes, .cons hfirst (fun _ _ ↦ Varint.read_size_pos) ?_⟩, hframe.header_le, ?_⟩
  · rw [hsize]
    exact Varint.shortestRun_of_drop_eq rfl
  · rw [hsize, Nat.zero_add, Nat.add_comm, List.drop_succ_cons, List.drop_left]

theorem isCanonical_of_encode? {values : List Value} {payload : Bytes} {record : Record}
    (h : encode? values = some payload) (hvalues : ∀ value ∈ values, value.IsStorable)
    (hsize : 13 + 2 * payload.length < UInt64.size) (hdecode : decode payload = .ok record) :
    IsCanonical payload record := by
  obtain ⟨hheader, hle, hbody⟩ := shortestRun_of_encode? h hdecode
  obtain ⟨headerSize, hwritten⟩ := decode_of_encode? h hvalues hsize
  obtain rfl := Except.ok.inj (hdecode.symm.trans hwritten)
  refine ⟨hheader, ?_, fun i length hi ↦ ?_⟩
  · have hlength := congrArg List.length hbody
    rw [List.length_drop, length_flatMap_stored] at hlength
    rw [stop_eq, Nat.add_comm]
    exact (Nat.eq_add_of_sub_eq hle hlength).symm
  · rw [List.getElem?_map] at hi
    obtain ⟨value, hvalue, htype⟩ := Option.map_eq_some_iff.mp hi
    have hwindow := window_flatMap_stored hvalue
    rw [start, ← Bytes.window_drop, hbody]
    rw [htype, SerialType.size] at hwindow
    rw [hwindow]
    exact isUtf8_stored htype

/-- Two payloads in canonical form that hold the same record are the same. -/
theorem decode_injective_of_isCanonical {payload payload' : Bytes} {record : Record}
    (h : payload ≠ []) (h' : payload' ≠ []) (hdecode : decode payload = .ok record)
    (hdecode' : decode payload' = .ok record) (hcanonical : IsCanonical payload record)
    (hcanonical' : IsCanonical payload' record) : payload = payload' := by
  rw [hcanonical.eq_canonical h hdecode, hcanonical'.eq_canonical h' hdecode']

/-- The integer 42, the text "Fé" and 64 zeros, whose type needs a varint of two bytes. -/
def longBlob : Bytes :=
  [0x05, 0x01, 0x13, 0x81, 0x0C, 0x2A, 0x46, 0xC3, 0xA9] ++ .replicate 64 0

def longBlobRecord : Record :=
  ⟨5, [.integer .one, .text 3, .blob 64], [.integer 42, .text "Fé", .blob (.replicate 64 0)]⟩

/-- The bytes are those of the canonical form. With one more the same record is read, and the form
is no longer canonical. -/
theorem decode_injective_of_isCanonical_longBlob :
    longBlob ≠ [] ∧ decode longBlob = .ok longBlobRecord ∧ IsCanonical longBlob longBlobRecord ∧
    decode longBlobRecord.canonical = .ok longBlobRecord ∧
      IsCanonical longBlobRecord.canonical longBlobRecord ∧ longBlob = longBlobRecord.canonical ∧
    decode (longBlob ++ [0]) = .ok longBlobRecord ∧
      ¬IsCanonical (longBlob ++ [0]) longBlobRecord := by
  have hne : longBlob ≠ [] := List.cons_ne_nil _ _
  have hne' : longBlobRecord.canonical ≠ [] := by decide +kernel
  have hdecode : decode longBlob = .ok longBlobRecord := by decide +kernel
  have hdecode' : decode longBlobRecord.canonical = .ok longBlobRecord := by decide +kernel
  have hstorable : ∀ value ∈ longBlobRecord.values, value.IsStorable := by
    simp [longBlobRecord, Value.IsStorable]
  have hcanonical : IsCanonical longBlob longBlobRecord :=
    isCanonical_of_encode? (by decide +kernel) hstorable (by decide +kernel) hdecode
  have hcanonical' : IsCanonical longBlobRecord.canonical longBlobRecord :=
    isCanonical_of_encode? (by decide +kernel) hstorable (by decide +kernel) hdecode'
  have hsame : longBlob = longBlobRecord.canonical :=
    decode_injective_of_isCanonical hne hne' hdecode hdecode' hcanonical hcanonical'
  have hlonger : decode (longBlob ++ [0]) = .ok longBlobRecord := by decide +kernel
  refine ⟨hne, hdecode, hcanonical, hdecode', hcanonical', hsame, hlonger, fun hends ↦ ?_⟩
  exact absurd hends.ends (by decide +kernel)

end Record

end TableFile
