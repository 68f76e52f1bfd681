import TableFile.Proofs.Text.Utf8
import TableFile.Proofs.Value.TwosComplement
import TableFile.Value.Display

namespace TableFile

def SerialType.IsMeant : SerialType → Prop
  | reserved code => code = 10 ∨ code = 11
  | _ => True

theorem SerialType.ofCode_code {type : SerialType} (h : type.IsMeant)
    (hsize : 13 + 2 * type.size < UInt64.size) : ofCode type.code = type := by
  cases type with
  | null | float | zero | one => rfl
  | integer width => cases width <;> rfl
  | reserved code =>
    obtain rfl | rfl := h
    · rfl
    · rfl
  | blob length =>
    rw [size] at hsize
    have hcode : (SerialType.blob length).code.toNat = 12 + 2 * length :=
      UInt64.toNat_ofNat_of_lt' (by omega)
    rw [ofCode, hcode]
    split <;> try omega
    rw [if_pos (by omega), show (12 + 2 * length - 12) / 2 = length by omega]
  | text length =>
    have hcode : (SerialType.text length).code.toNat = 13 + 2 * length :=
      UInt64.toNat_ofNat_of_lt' hsize
    rw [ofCode, hcode]
    split <;> try omega
    rw [if_neg (by omega), show (13 + 2 * length - 13) / 2 = length by omega]

theorem SerialType.ofCode_of_le {code : UInt64} (h : 12 ≤ code.toNat) :
    ofCode code = if code.toNat % 2 = 0 then .blob ((code.toNat - 12) / 2)
      else .text ((code.toNat - 13) / 2) := by
  unfold ofCode
  split <;> first | omega | rfl

theorem SerialType.code_ofCode (code : UInt64) : (ofCode code).code = code := by
  by_cases hsmall : code.toNat < 12
  · have hcodes : ∀ n : Fin 12, (ofCode (.ofNat n)).code = .ofNat n := by decide
    have hcode := hcodes ⟨code.toNat, hsmall⟩
    rwa [UInt64.ofNat_toNat] at hcode
  · rw [ofCode_of_le (Nat.not_lt.mp hsmall)]
    split
    · have hcode : 12 + 2 * ((code.toNat - 12) / 2) = code.toNat := by omega
      rw [SerialType.code, hcode, UInt64.ofNat_toNat]
    · have hcode : 13 + 2 * ((code.toNat - 13) / 2) = code.toNat := by omega
      rw [SerialType.code, hcode, UInt64.ofNat_toNat]

namespace Value

/-- Every value can be stored, but a `reserved` one only under its own codes. -/
def IsStorable : Value → Prop
  | reserved code => code = 10 ∨ code = 11
  | _ => True

/-- What a value is read back as: the integers 0 and 1 take no bytes. -/
def reread : Value → Value
  | integer n => if n = 0 then zero else if n = 1 then one else integer n
  | value => value

theorem reread_cases (value : Value) :
    value.reread = value ∨ value = integer 0 ∧ value.reread = zero ∨
      value = integer 1 ∧ value.reread = one := by
  cases value with
  | integer n =>
    rw [reread]
    split_ifs with h₀ h₁
    · exact .inr (.inl ⟨congrArg integer h₀, rfl⟩)
    · exact .inr (.inr ⟨congrArg integer h₁, rfl⟩)
    · exact .inl rfl
  | _ => exact .inl rfl

@[simp] theorem display_reread (value : Value) : value.reread.display = value.display := by
  rcases value.reread_cases with h | ⟨rfl, -⟩ | ⟨rfl, -⟩
  · rw [h]
  · rfl
  · rfl

@[simp] theorem integer?_reread (value : Value) : value.reread.integer? = value.integer? := by
  rcases value.reread_cases with h | ⟨rfl, -⟩ | ⟨rfl, -⟩
  · rw [h]
  · rfl
  · rfl

@[simp] theorem text?_reread (value : Value) : value.reread.text? = value.text? := by
  rcases value.reread_cases with h | ⟨rfl, -⟩ | ⟨rfl, -⟩
  · rw [h]
  · rfl
  · rfl

@[simp] theorem reread_eq_null_iff {value : Value} : value.reread = null ↔ value = null := by
  rcases value.reread_cases with h | ⟨rfl, h⟩ | ⟨rfl, h⟩
  · rw [h]
  · simp [h]
  · simp [h]

theorem storedType_integer {n : Int64} (h₀ : n ≠ 0) (h₁ : n ≠ 1) :
    ∃ width, storedType (integer n) = .integer width ∧ fits n width := by
  rw [storedType, if_neg h₀, if_neg h₁]
  split_ifs with hone htwo hfour
  · exact ⟨_, rfl, hone⟩
  · exact ⟨_, rfl, htwo⟩
  · exact ⟨_, rfl, hfour⟩
  · refine ⟨_, rfl, ?_⟩
    have hleast := n.le_toInt
    have hmost := n.toInt_lt
    rw [fits, Bool.and_eq_true, decide_eq_true_iff, decide_eq_true_iff]
    exact ⟨hmost, hleast⟩

theorem fits_iff_holds {n : Int64} {width : IntegerWidth} :
    fits n width ↔ width.Holds n.toInt := by
  rw [fits, IntegerWidth.Holds, Nat.one_shiftLeft, Bool.and_eq_true, decide_eq_true_iff,
    decide_eq_true_iff]
  exact and_comm

/-- Two's complement in few bytes keeps the numbers that fit. -/
theorem signed_ofNat {n : Int64} {width : IntegerWidth} (h : fits n width) :
    signed (.ofNat width.bytes n.toUInt64.toNat) = n := by
  have hlength := Bytes.length_ofNat width.bytes n.toUInt64.toNat
  have hdvd : 256 ^ width.bytes ∣ 2 ^ 64 := Nat.pow_dvd_pow 256 width.bytes_le
  have hn : n.toInt = Int.bmod n.toUInt64.toNat (2 ^ 64) := BitVec.toInt_eq_toNat_bmod _
  apply Int64.toInt_inj.mp
  rw [toInt_signed (hlength.trans_le width.bytes_le), hlength, Bytes.bigEndian_ofNat,
    Int.natCast_mod, Int.emod_bmod, ← Int.bmod_bmod_of_dvd hdvd, ← hn,
    (fits_iff_holds.mp h).bmod_eq]

@[simp] theorem length_stored (value : Value) : value.stored.length = value.storedType.size := by
  cases value <;> simp [stored, storedType, SerialType.size]

theorem stored_integer (n : Int64) :
    (integer n).stored = .ofNat (integer n).storedType.size n.toUInt64.toNat := rfl

theorem decode_stored (value : Value) : decode value.storedType value.stored = value.reread := by
  cases value with
  | null | zero | one | reserved | blob => rfl
  | integer n =>
    rw [reread]
    split_ifs with h₀ h₁
    · subst h₀
      rfl
    · subst h₁
      rfl
    · obtain ⟨width, htype, hfits⟩ := storedType_integer h₀ h₁
      rw [stored_integer, htype, decode, SerialType.size, signed_ofNat hfits]
  | float bits =>
    have hbits := Bytes.bigEndian_ofNat_of_lt 8 bits.toNat_lt
    rw [stored, storedType, decode, hbits, UInt64.ofNat_toNat]
    rfl
  | text content =>
    rw [stored, storedType, decode, Text.ofUtf8_toUtf8]
    rfl

theorem isMeant_storedType {value : Value} (h : value.IsStorable) : value.storedType.IsMeant := by
  cases value with
  | integer n =>
    rw [storedType]
    split_ifs <;> trivial
  | reserved code => exact h
  | _ => trivial

theorem ofCode_storedType {value : Value} (h : value.IsStorable)
    (hsize : 13 + 2 * value.stored.length < UInt64.size) :
    SerialType.ofCode value.storedType.code = value.storedType :=
  SerialType.ofCode_code (isMeant_storedType h) (value.length_stored ▸ hsize)

end Value

end TableFile
