import TableFile.Proofs.Machine.Step
import TableFile.Proofs.Varint.Extent

namespace TableFile.Machine

/-- Reads on after `size` bytes that left `value`, with at most `groups` seven-bit bytes to come. -/
def readVarintFrom (data : Bytes) (offset groups size : Nat) (value : UInt64) :
    Machine (UInt64 × Nat) := do
  let position ← add offset size
  match data[position]? with
  | none => do
    let needed ← add size 1
    failed (.truncated .varint needed (data.length - offset))
  | some b => do
    let size ← add size 1
    match groups with
    | 0 => return (value <<< 8 ||| b.toUInt64, size)
    | groups + 1 =>
      let value := value <<< 7 ||| (b &&& 0x7F).toUInt64
      if b &&& 0x80 = 0 then return (value, size)
      else readVarintFrom data offset groups size value

def readVarint (data : Bytes) (offset : Nat) : Machine (UInt64 × Nat) :=
  readVarintFrom data offset 8 0 0

theorem readVarintFrom_eq_done {data : Bytes} {offset groups size : Nat} {value : UInt64}
    {result : UInt64 × Nat} (h : readVarintFrom data offset groups size value = done result) :
    result.2 = size + 1 ∨ ∃ groups' value', groups = groups' + 1 ∧
      readVarintFrom data offset groups' (size + 1) value' = done result := by
  rw [readVarintFrom] at h
  obtain ⟨_, -, h⟩ := bind_eq_done_iff.mp h
  split at h
  · obtain ⟨_, -, h⟩ := bind_eq_done_iff.mp h
    cases h
  · obtain ⟨_, hsize, h⟩ := bind_eq_done_iff.mp h
    obtain rfl := eq_of_add_eq_done hsize
    split at h
    · exact .inl (congrArg Prod.snd (done.inj h)).symm
    · split at h
      · exact .inl (congrArg Prod.snd (done.inj h)).symm
      · exact .inr ⟨_, _, rfl, h⟩

theorem lt_of_readVarintFrom {data : Bytes} {offset groups size : Nat} {value : UInt64}
    {result : UInt64 × Nat} (h : readVarintFrom data offset groups size value = done result) :
    size < result.2 := by
  induction groups generalizing size value with
  | zero =>
    obtain hover | ⟨_, _, hgroups, -⟩ := readVarintFrom_eq_done h
    · omega
    · cases hgroups
  | succ groups ih =>
    obtain hover | ⟨_, _, hgroups, hrest⟩ := readVarintFrom_eq_done h
    · omega
    · obtain rfl := Nat.succ.inj hgroups
      exact (Nat.lt_succ_self size).trans (ih hrest)

theorem readVarint_size_pos {data : Bytes} {offset count : Nat} {n : UInt64}
    (h : readVarint data offset = done (n, count)) : 0 < count :=
  lt_of_readVarintFrom h

/-- A shift that drops no bit makes room for some more. -/
theorem toNat_shiftLeft_or {value low : UInt64} {count : Nat} (hcount : count < 64)
    (hlow : low.toNat < 2 ^ count) (hvalue : 2 ^ count * value.toNat < 2 ^ 64) :
    (value <<< .ofNat count ||| low).toNat = 2 ^ count * value.toNat + low.toNat := by
  have hshift : (UInt64.ofNat count).toNat % 64 = count := by
    rw [UInt64.toNat_ofNat_of_lt' (show count < UInt64.size from hcount.trans (by decide)),
      Nat.mod_eq_of_lt hcount]
  rw [UInt64.toNat_or, UInt64.toNat_shiftLeft, hshift, Nat.shiftLeft_eq, Nat.mul_comm,
    Nat.mod_eq_of_lt hvalue, ← Nat.two_pow_add_eq_or_of_lt hlow]

theorem toNat_seven_more {value : UInt64} (h : value.toNat < 128 ^ 8) (b : UInt8) :
    (value <<< 7 ||| (b &&& 0x7F).toUInt64).toNat = 128 * value.toNat + b.toNat % 128 := by
  have hlow : (b &&& 0x7F).toUInt64.toNat = b.toNat % 128 :=
    (UInt8.toNat_and b 0x7F).trans (Nat.and_two_pow_sub_one_eq_mod b.toNat 7)
  rw [← hlow]
  refine toNat_shiftLeft_or (show 7 < 64 by decide) ?_ (show 128 * value.toNat < 2 ^ 64 by omega)
  rw [hlow]
  exact Nat.mod_lt _ (by decide)

theorem toNat_eight_more {value : UInt64} (h : value.toNat < 128 ^ 8) (b : UInt8) :
    (value <<< 8 ||| b.toUInt64).toNat = 256 * value.toNat + b.toNat :=
  toNat_shiftLeft_or (show 8 < 64 by decide) b.toNat_lt (show 256 * value.toNat < 2 ^ 64 by omega)

theorem and_high_eq_zero_iff (b : UInt8) : b &&& 0x80 = 0 ↔ b < 128 := by
  have hbyte : ∀ n : Fin 256, (UInt8.ofNat n &&& 0x80 = 0 ↔ UInt8.ofNat n < 128) := by
    decide +kernel
  have h := hbyte ⟨b.toNat, b.toNat_lt⟩
  rwa [UInt8.ofNat_toNat] at h

theorem readVarintFrom_of_none {data : Bytes} {offset size : Nat} (groups : Nat) (value : UInt64)
    (hoffset : offset + size + 1 < UInt64.size) (hsize : size ≤ data.length - offset)
    (h : data[offset + size]? = none) :
    readVarintFrom data offset groups size value =
      failed (.truncated .varint (data.length - offset + 1) (data.length - offset)) := by
  have hend : size = data.length - offset := by
    have := List.getElem?_eq_none_iff.mp h
    omega
  rw [readVarintFrom, add_eq (by omega), done_bind]
  simp only [h]
  rw [add_eq (by omega), done_bind, ← hend]

theorem readVarintFrom_of_some {data : Bytes} {offset size : Nat} {b : UInt8} (groups : Nat)
    (value : UInt64) (hoffset : offset + size + 1 < UInt64.size)
    (h : data[offset + size]? = some b) :
    readVarintFrom data offset groups size value =
      match groups with
      | 0 => done (value <<< 8 ||| b.toUInt64, size + 1)
      | groups + 1 =>
        if b < 128 then done (value <<< 7 ||| (b &&& 0x7F).toUInt64, size + 1)
        else readVarintFrom data offset groups (size + 1)
          (value <<< 7 ||| (b &&& 0x7F).toUInt64) := by
  rw [readVarintFrom, add_eq (by omega), done_bind]
  simp only [h]
  rw [add_eq (by omega), done_bind]
  simp only [and_high_eq_zero_iff, pure_eq_done]

/-- Eight groups leave room for one more byte, so that no shift drops a bit. -/
theorem readVarintFrom_eq {data : Bytes} {offset groups size : Nat} {value : UInt64}
    (hoffset : offset + size + groups + 1 < UInt64.size) (hsize : size ≤ data.length - offset)
    (hvalue : (value.toNat + 1) * 128 ^ groups ≤ 128 ^ 8) :
    readVarintFrom data offset groups size value =
      match Varint.readFrom groups value.toNat (data.drop (offset + size)) with
      | some (n, count) => done (.ofNat n, size + count)
      | none => failed (.truncated .varint (data.length - offset + 1) (data.length - offset)) := by
  induction groups generalizing size value with
  | zero =>
    cases hb : data[offset + size]? with
    | none =>
      rw [readVarintFrom_of_none 0 value (by omega) hsize hb,
        List.drop_of_length_le (List.getElem?_eq_none_iff.mp hb)]
      rfl
    | some b =>
      obtain ⟨hlt, rfl⟩ := List.getElem?_eq_some_iff.mp hb
      have hbyte := data[offset + size].toNat_lt
      have hbits : value <<< 8 ||| data[offset + size].toUInt64 =
          .ofNat (256 * value.toNat + data[offset + size].toNat) := by
        rw [← toNat_eight_more (by omega), UInt64.ofNat_toNat]
      rw [readVarintFrom_of_some 0 value (by omega) hb, List.drop_eq_getElem_cons hlt, hbits]
      rfl
  | succ groups ih =>
    cases hb : data[offset + size]? with
    | none =>
      rw [readVarintFrom_of_none (groups + 1) value (by omega) hsize hb,
        List.drop_of_length_le (List.getElem?_eq_none_iff.mp hb)]
      rfl
    | some b =>
      obtain ⟨hlt, rfl⟩ := List.getElem?_eq_some_iff.mp hb
      rw [readVarintFrom_of_some (groups + 1) value (by omega) hb, List.drop_eq_getElem_cons hlt,
        Varint.readFrom]
      generalize data[offset + size] = b at hb ⊢
      have hpow : 0 < 128 ^ groups := Nat.pow_pos (by decide)
      rw [Nat.pow_succ', ← Nat.mul_assoc] at hvalue
      have hroom : (value.toNat + 1) * 128 ≤ 128 ^ 8 :=
        (Nat.le_mul_of_pos_right _ hpow).trans hvalue
      have hbits := toNat_seven_more (show value.toNat < 128 ^ 8 by omega) b
      dsimp only
      by_cases hlast : b < 128
      · rw [if_pos hlast, if_pos hlast, ← Varint.toNat_mod_of_last hlast, ← hbits]
        simp only [UInt64.ofNat_toNat]
      · have hbyte := b.toNat_lt
        rw [Varint.toNat_mod_of_more hlast] at hbits
        rw [if_neg hlast, if_neg hlast, ih (by omega) (by omega), hbits]
        · cases Varint.readFrom groups (128 * value.toNat + (b.toNat - 128))
              (data.drop (offset + size + 1)) with
          | none => rfl
          | some r => simp only [Option.map_some, Nat.add_assoc, Nat.add_comm 1]
        · rw [hbits]
          refine (Nat.mul_le_mul_right _ ?_).trans hvalue
          omega

theorem readVarint_eq (data : Bytes) {offset : Nat} (h : offset < 2 ^ 63) :
    readVarint data offset = ofExcept (Varint.readAt data offset) := by
  have hoffset : offset + 0 + 8 + 1 < UInt64.size := show offset + 9 < 2 ^ 64 by omega
  rw [readVarint, readVarintFrom_eq hoffset (Nat.zero_le _) (by decide), UInt64.toNat_zero,
    Nat.add_zero, Varint.readAt, Varint.read, List.length_drop]
  cases Varint.readFrom 8 0 (data.drop offset) with
  | none => rfl
  | some r => simp only [Nat.zero_add, ofExcept_ok]

end TableFile.Machine
