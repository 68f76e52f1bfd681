import TableFile.Proofs.Record.Format
import TableFile.Proofs.Value.TwosComplement

namespace TableFile

variable {width : IntegerWidth} {body : Bytes}

theorem SerialType.ofCode_integer (width : IntegerWidth) :
    ofCode (integer width).code = integer width := by
  cases width <;> rfl

theorem Value.exists_decode_integer (h : body.length = width.bytes) :
    ∃ n, decode (.integer width) body = integer n ∧ width.Holds n.toInt ∧
      ∀ i, width.Holds i → (body = .ofInt width.bytes i ↔ i = n.toInt) :=
  ⟨signed body, rfl, holds_signed h, fun _ hi ↦ eq_ofInt_iff h hi⟩

namespace Record

variable {payload : Bytes} {headerSize k : Nat} {codes : List UInt64}

theorem HasFrame.length_window (h : HasFrame payload headerSize codes) {type : SerialType}
    (htype : (codes.map .ofCode)[k]? = some type) :
    (payload.window (headerSize + bodySize ((codes.map .ofCode).take k)) type.size).length =
      type.size := by
  have hk := (List.getElem?_eq_some_iff.mp htype).1
  have hle := bodySize_take_mono (codes.map .ofCode) (Nat.succ_le_of_lt hk)
  rw [Nat.succ_eq_add_one, bodySize_take_succ htype, List.take_length] at hle
  have hbody := h.body_le
  apply Bytes.length_window
  omega

/-- Any bytes, as many as the width has, are read as an integer of its range, of which they are the
two's complement. So a column of the width holds the integer whose two's complement stands in its
place, whatever columns stand around it. -/
theorem decode_integers (width : IntegerWidth) :
    (∀ body : Bytes, body.length = width.bytes → ∃ n,
      Value.decode (.integer width) body = .integer n ∧ width.Holds n.toInt ∧
        Bytes.ofInt width.bytes n.toInt = body) ∧
    ∀ payload headerSize codes k, HasFrame payload headerSize codes →
      codes[k]? = some (SerialType.integer width).code →
      ∃ record n, decode payload = .ok record ∧ record.headerSize = headerSize ∧
        record.types = codes.map .ofCode ∧ record.values[k]? = some (.integer n) ∧
        width.Holds n.toInt ∧ ∀ i, width.Holds i →
          (payload.window (record.start k) width.bytes = .ofInt width.bytes i ↔ i = n.toInt) := by
  constructor
  · intro body hbody
    obtain ⟨n, hdecode, hholds, hforms⟩ := Value.exists_decode_integer hbody
    exact ⟨n, hdecode, hholds, ((hforms _ hholds).mpr rfl).symm⟩
  · intro payload headerSize codes k hframe hcode
    have htype : (codes.map SerialType.ofCode)[k]? = some (.integer width) := by
      rw [List.getElem?_map, hcode, Option.map_some, SerialType.ofCode_integer]
    obtain ⟨n, hdecode, hholds, hforms⟩ := Value.exists_decode_integer (hframe.length_window htype)
    refine ⟨_, n, hframe.decode_eq, rfl, rfl, ?_, hholds, hforms⟩
    rw [getElem?_valuesIn, htype, Option.map_some, Bytes.window_drop, ← hdecode]

/-- A text, the least integer of six bytes, -2 in three bytes, and a null. -/
def leastSixBytes : Bytes :=
  [0x05, 0x11, 0x05, 0x03, 0x00, 0xC3, 0xA9, 0x80, 0, 0, 0, 0, 0, 0xFF, 0xFF, 0xFE]

theorem decode_integers_leastSixBytes :
    HasFrame leastSixBytes 5 [17, 5, 3, 0] ∧
    IntegerWidth.six.Holds (-140737488355328) ∧
    (∃ record n, decode leastSixBytes = .ok record ∧ record.values[1]? = some (.integer n) ∧
      -140737488355328 = n.toInt) ∧
    ∃ n, Value.decode (.integer .three) [0xFF, 0xFF, 0xFE] = .integer n ∧
      Bytes.ofInt 3 n.toInt = [0xFF, 0xFF, 0xFE] := by
  have hframe : HasFrame leastSixBytes 5 [17, 5, 3, 0] :=
    ⟨⟨5, 1, rfl, rfl, by decide, .cons rfl (.cons rfl (.cons rfl (.cons rfl (.nil 5))))⟩,
      by decide, by decide +kernel⟩
  have hholds : IntegerWidth.six.Holds (-140737488355328) := by
    constructor <;> decide
  obtain ⟨record, n, hdecode, hheader, htypes, hvalue, -, hforms⟩ :=
    (decode_integers .six).2 _ _ _ 1 hframe rfl
  obtain ⟨m, hthree, -, hform⟩ := (decode_integers .three).1 [0xFF, 0xFF, 0xFE] rfl
  refine ⟨hframe, hholds, ⟨record, n, hdecode, hvalue, (hforms _ hholds).mp ?_⟩, m, hthree, hform⟩
  rw [start, hheader, htypes]
  decide +kernel

end Record

end TableFile
