import Mathlib.Data.Int.Order.Basic
import Mathlib.Data.List.Induction
import TableFile.Bytes.Lemmas
import TableFile.Value.Basic

namespace TableFile

namespace Bytes

def ofInt (width : Nat) (i : Int) : Bytes :=
  ofNat width (i % (256 ^ width : Nat)).toNat

@[simp] theorem length_ofInt (width : Nat) (i : Int) : (ofInt width i).length = width :=
  length_ofNat width _

theorem bigEndian_ofInt (width : Nat) (i : Int) :
    (bigEndian (ofInt width i) : Int) = i % (256 ^ width : Nat) := by
  have hpos : (0 : Int) < (256 ^ width : Nat) := Int.natCast_pos.mpr (Nat.pow_pos (by decide))
  have hnonneg := Int.emod_nonneg i hpos.ne'
  have hlt := Int.emod_lt_of_pos i hpos
  rw [ofInt, bigEndian_ofNat_of_lt width (by omega), Int.toNat_of_nonneg hnonneg]

theorem ofNat_bigEndian (data : Bytes) : ofNat data.length data.bigEndian = data := by
  induction data using List.reverseRecOn with
  | nil => rfl
  | append_singleton data b ih =>
    have hb := b.toNat_lt
    have hhigh : (256 * bigEndian data + b.toNat) / 256 = bigEndian data := by omega
    have hlow : UInt8.ofNat (256 * bigEndian data + b.toNat) = b :=
      UInt8.toNat_inj.mp (by rw [UInt8.toNat_ofNat']; omega)
    rw [bigEndian_concat, List.length_append, List.length_singleton, ofNat, hhigh, hlow, ih]

end Bytes

def IntegerWidth.Holds (width : IntegerWidth) (i : Int) : Prop :=
  -(2 ^ (8 * width.bytes - 1) : Nat) ≤ i ∧ i < (2 ^ (8 * width.bytes - 1) : Nat)

theorem IntegerWidth.bytes_le (width : IntegerWidth) : width.bytes ≤ 8 := by
  cases width <;> decide

theorem IntegerWidth.pow_bytes (width : IntegerWidth) :
    256 ^ width.bytes = 2 * 2 ^ (8 * width.bytes - 1) := by
  cases width <;> rfl

theorem IntegerWidth.Holds.bmod_eq {width : IntegerWidth} {i : Int} (h : width.Holds i) :
    Int.bmod i (256 ^ width.bytes) = i := by
  have hpow := width.pow_bytes
  obtain ⟨hleast, hmost⟩ := h
  apply Int.bmod_eq_of_le
  · omega
  · omega

namespace Value

theorem signed_eq_bmod (body : Bytes) :
    signed body = .ofInt (Int.bmod body.bigEndian (256 ^ body.length)) := by
  rw [signed, Nat.one_shiftLeft, Nat.pow_mul]

theorem toInt_signed {body : Bytes} (h : body.length ≤ 8) :
    (signed body).toInt = Int.bmod body.bigEndian (256 ^ body.length) := by
  have hle : 256 ^ body.length ≤ Int64.size := Nat.pow_le_pow_right (by decide) h
  have hpos : 0 < 256 ^ body.length := Nat.pow_pos (by decide)
  have hleast := Int.le_bmod (x := body.bigEndian) hpos
  have hmost := Int.bmod_lt (x := body.bigEndian) hpos
  rw [signed_eq_bmod, Int64.toInt_ofInt]
  apply Int.bmod_eq_of_le
  · omega
  · omega

variable {width : IntegerWidth} {body : Bytes}

theorem holds_signed (h : body.length = width.bytes) : width.Holds (signed body).toInt := by
  have hpow := width.pow_bytes
  have hpos : 0 < 256 ^ width.bytes := Nat.pow_pos (by decide)
  have hleast := Int.le_bmod (x := body.bigEndian) hpos
  have hmost := Int.bmod_lt (x := body.bigEndian) hpos
  rw [IntegerWidth.Holds, toInt_signed (h ▸ width.bytes_le), h]
  omega

theorem ofInt_signed (h : body.length ≤ 8) :
    Bytes.ofInt body.length (signed body).toInt = body := by
  have hlt := Int.ofNat_lt.mpr (Bytes.bigEndian_lt body)
  rw [Bytes.ofInt, toInt_signed h, Int.bmod_emod,
    Int.emod_eq_of_lt (Int.natCast_nonneg _) hlt, Int.toNat_natCast, Bytes.ofNat_bigEndian]

theorem toInt_signed_ofInt {i : Int} (h : width.Holds i) :
    (signed (.ofInt width.bytes i)).toInt = i := by
  have hlength := Bytes.length_ofInt width.bytes i
  rw [toInt_signed (hlength.trans_le width.bytes_le), hlength, Bytes.bigEndian_ofInt, Int.emod_bmod,
    h.bmod_eq]

/-- Of the integers in range, a body has the form of the one that is read from it. -/
theorem eq_ofInt_iff {i : Int} (hbody : body.length = width.bytes) (h : width.Holds i) :
    body = .ofInt width.bytes i ↔ i = (signed body).toInt := by
  constructor
  · rintro rfl
    exact (toInt_signed_ofInt h).symm
  · rintro rfl
    rw [← hbody, ofInt_signed (hbody.trans_le width.bytes_le)]

end Value

end TableFile
