import TableFile.Proofs.Machine.Varint
import TableFile.Proofs.Value.Signed
import TableFile.Proofs.Value.Stored
import TableFile.Record

namespace TableFile

theorem SerialType.size_ofCode_lt (code : UInt64) : (ofCode code).size < 2 ^ 63 := by
  have hcode := code.toNat_lt
  unfold ofCode
  split
  case h_13 => split <;> simp only [size] <;> omega
  all_goals exact of_decide_eq_true rfl

namespace Machine

def serialType (code : UInt64) : Machine SerialType := do
  if code.toNat < 12 then return .ofCode code
  else if code.toNat % 2 = 0 then return .blob ((← sub code.toNat 12) / 2)
  else return .text ((← sub code.toNat 13) / 2)

theorem serialType_eq (code : UInt64) : serialType code = done (.ofCode code) := by
  unfold serialType
  by_cases hsmall : code.toNat < 12
  · rw [if_pos hsmall, pure_eq_done]
  · rw [if_neg hsmall, SerialType.ofCode_of_le (Nat.not_lt.mp hsmall)]
    by_cases heven : code.toNat % 2 = 0
    · rw [if_pos heven, if_pos heven, sub_eq (by omega), done_bind, pure_eq_done]
    · rw [if_neg heven, if_neg heven, sub_eq (by omega), done_bind, pure_eq_done]

/-- The number whose two's complement is in `bytes`: they are copied to the end of eight bytes that
are all ones or all zeros, as their top bit is. -/
def signExtend (bytes : Bytes) : Machine Int64 := do
  let padding : Bytes := .replicate 8 (if bytes.head?.any (0x80 ≤ ·) then 0xFF else 0)
  let start ← sub 8 bytes.length
  let window ← slice padding start 8
  let filled ← copy window.length bytes
  return (UInt64.ofNat (Bytes.bigEndian (padding.take start ++ filled))).toInt64

theorem signExtend_eq {bytes : Bytes} (h : bytes.length ≤ 8) :
    signExtend bytes = done (Value.signed bytes) := by
  have hpadding (b : UInt8) : (List.replicate 8 b).length = 8 := List.length_replicate
  have hlength : 8 - (8 - bytes.length) = bytes.length := by omega
  rw [signExtend, sub_eq h, done_bind, slice_eq (by omega) (by rw [hpadding]), done_bind,
    Bytes.length_window (by rw [hpadding]; omega), hlength, copy_eq rfl, done_bind, pure_eq_done,
    List.take_replicate, Nat.min_eq_left (by omega), Value.toInt64_bigEndian_extended h]

def decodeValue (type : SerialType) (body : Bytes) : Machine Value :=
  match type with
  | .integer _ => do return .integer (← signExtend body)
  | .float => do
    let bits ← copy 8 body
    return .float (.ofNat bits.bigEndian)
  | type => return .decode type body

theorem decodeValue_eq {type : SerialType} {body : Bytes} (h : body.length = type.size) :
    decodeValue type body = done (.decode type body) := by
  cases type with
  | integer width =>
    have hwidth : body.length ≤ 8 := h.trans_le (by cases width <;> decide)
    rw [decodeValue, signExtend_eq hwidth]
    rfl
  | float =>
    have hcopy : copy 8 body = done body := copy_eq h
    rw [decodeValue, hcopy]
    rfl
  | _ => rfl

def readTypes (payload : Bytes) (headerSize position : Nat) :
    Machine (List SerialType × Nat) :=
  if position < headerSize then
    match _h : readVarint payload position with
    | .stuck => stuck
    | .failed e => failed e
    | .done (code, size) => do
      let _ ← add position size
      let type ← serialType code
      let (types, stop) ← readTypes payload headerSize (position + size)
      return (type :: types, stop)
  else return ([], position)
termination_by headerSize - position
decreasing_by
  have := readVarint_size_pos ‹_›
  omega

theorem readTypes_of_lt {payload : Bytes} {headerSize position : Nat} (h : position < headerSize) :
    readTypes payload headerSize position = do
      let (code, size) ← readVarint payload position
      let _ ← add position size
      let type ← serialType code
      let (types, stop) ← readTypes payload headerSize (position + size)
      return (type :: types, stop) := by
  rw [readTypes, if_pos h]
  split
  all_goals simp only [*]; rfl

theorem readTypes_eq {payload data : Bytes} {headerSize position : Nat}
    (hlength : payload.length < 2 ^ 63) (hheader : headerSize ≤ payload.length)
    (hdata : data = payload.drop position) :
    readTypes payload headerSize position =
      ofExcept (Record.readTypes headerSize position data) := by
  -- The header ends in the payload, so each position is small enough to read a varint at.
  fun_induction Record.readTypes headerSize position data with
  | case1 position data hposition e hread =>
    subst hdata
    rw [readTypes_of_lt hposition, readVarint_eq _ (by omega), Varint.readAt, hread]
    rfl
  | case2 position data hposition code size hread ih =>
    subst hdata
    have hsize := (Varint.read_local hread).1
    rw [List.length_drop] at hsize
    rw [readTypes_of_lt hposition, readVarint_eq _ (by omega), Varint.readAt, hread, ofExcept_ok,
      done_bind]
    dsimp only
    rw [add_eq_of_lt (by omega) (by omega), done_bind, serialType_eq, done_bind, ih List.drop_drop,
      ofExcept_bind]
    rfl
  | case3 position data hposition =>
    rw [readTypes, if_neg hposition]
    rfl

def readValues (payload : Bytes) : (offset : Nat) → List SerialType → Machine (List Value)
  | _, [] => return []
  | offset, type :: types => do
    let stop ← add offset type.size
    let available ← sub payload.length offset
    match slice? payload offset stop with
    | none => failed (.truncated .recordValue type.size available)
    | some body => do
      let value ← decodeValue type body
      let offset ← add offset type.size
      let values ← readValues payload offset types
      return value :: values

/-- A value may state any size below `2 ^ 63`, and the room it would end in is still a word. -/
theorem readValues_eq {payload : Bytes} {offset : Nat} {types : List SerialType}
    (hlength : payload.length < 2 ^ 63) (hoffset : offset ≤ payload.length)
    (htypes : ∀ type ∈ types, type.size < 2 ^ 63) :
    readValues payload offset types = ofExcept (Record.readValues types (payload.drop offset)) := by
  induction types generalizing offset with
  | nil => rfl
  | cons type types ih =>
    have hsize := htypes type List.mem_cons_self
    rw [readValues, add_eq_of_lt (by omega) hsize, done_bind, sub_eq hoffset, done_bind,
      slice?_eq hoffset, Record.readValues]
    cases hsplit : Bytes.splitAt? type.size (payload.drop offset) with
    | none =>
      rw [List.length_drop]
      rfl
    | some parts =>
      obtain ⟨body, rest⟩ := parts
      obtain ⟨hbody, hdrop⟩ := Bytes.splitAt?_eq_some_iff.mp hsplit
      have hrest : rest = payload.drop (offset + type.size) := by
        rw [← List.drop_drop, hdrop, List.drop_left' hbody]
      have hfits := congrArg List.length hdrop
      rw [List.length_drop, List.length_append, hbody] at hfits
      dsimp only [Option.map_some]
      have hrest' : readValues payload (offset + type.size) types =
          ofExcept (Record.readValues types rest) := by
        rw [hrest]
        exact ih (by omega) fun type htype ↦ htypes type (List.mem_cons_of_mem _ htype)
      rw [decodeValue_eq hbody, done_bind, done_bind, hrest', ofExcept_bind]
      rfl

def decodeRecord (payload : Bytes) : Machine Record :=
  if payload.isEmpty then return ⟨0, [], []⟩
  else do
    let (declared, size) ← readVarint payload 0
    let headerSize := declared.toNat
    if headerSize < size ∨ payload.length < headerSize then
      failed (.badRecord (.headerSize headerSize size payload.length))
    else do
      let (types, stop) ← readTypes payload headerSize size
      if stop ≠ headerSize then
        failed (.badRecord (.headerOverrun stop headerSize))
      else return ⟨headerSize, types, ← readValues payload headerSize types⟩

theorem size_lt_of_readTypes {headerSize position stop : Nat} {data : Bytes}
    {types : List SerialType} (h : Record.readTypes headerSize position data = .ok (types, stop))
    {type : SerialType} (htype : type ∈ types) : type.size < 2 ^ 63 := by
  fun_induction Record.readTypes headerSize position data generalizing types stop with
  | case1 => cases h
  | case2 position data hposition code size hread ih =>
    obtain ⟨⟨types', stop'⟩, hrest, h⟩ := Except.bind_eq_ok_iff.mp h
    obtain ⟨rfl, rfl⟩ := Prod.mk.inj (Except.ok.inj h)
    obtain rfl | htype := List.mem_cons.mp htype
    · exact SerialType.size_ofCode_lt code
    · exact ih hrest htype
  | case3 =>
    obtain ⟨rfl, -⟩ := Prod.mk.inj (Except.ok.inj h)
    cases htype

theorem decodeRecord_eq {payload : Bytes} (h : payload.length < 2 ^ 63) :
    decodeRecord payload = ofExcept (Record.decode payload) := by
  rw [decodeRecord, Record.decode]
  split
  · rfl
  · rw [readVarint_eq _ (by decide), Varint.readAt, List.drop_zero, ofExcept_bind]
    apply bind_congr
    rintro ⟨declared, size⟩
    dsimp only
    split
    · rfl
    · next hbounds =>
      rw [readTypes_eq h (by omega) rfl, ofExcept_bind]
      cases htypes : Record.readTypes declared.toNat size (payload.drop size) with
      | error e => rfl
      | ok r =>
        obtain ⟨types, stop⟩ := r
        rw [ofExcept_ok, done_bind, done_bind]
        dsimp only
        split
        · rfl
        · rw [readValues_eq h (by omega) fun _ ↦ size_lt_of_readTypes htypes, ofExcept_bind]
          rfl

end Machine

end TableFile
