import TableFile.Proofs.Varint.Extent

namespace TableFile.Varint

/-- As many bytes as there are up to the first of `groups` with its top bit clear, or one more than
`groups` if they all have it set. -/
def extent (groups : Nat) (data : Bytes) : Nat :=
  (data.take groups).findIdx (· < 128) + 1

/-- The number that the bytes spell behind the bits `value`: seven bits for each of the first
`groups`, and all eight for one behind them. -/
def spelled (groups value : Nat) (data : Bytes) : Nat :=
  let high := (data.take groups).foldl (fun n b ↦ 128 * n + b.toNat % 128) value
  match data[groups]? with
  | none => high
  | some b => 256 * high + b.toNat

theorem extent_zero (data : Bytes) : extent 0 data = 1 := by
  rw [extent, List.take_zero, List.findIdx_nil]

theorem extent_of_last {b : UInt8} (hb : b < 128) (groups : Nat) (data : Bytes) :
    extent (groups + 1) (b :: data) = 1 := by
  rw [extent, List.take_succ_cons, List.findIdx_cons, decide_eq_true hb, cond_true]

theorem extent_of_more {b : UInt8} (hb : ¬b < 128) (groups : Nat) (data : Bytes) :
    extent (groups + 1) (b :: data) = extent groups data + 1 := by
  rw [extent, extent, List.take_succ_cons, List.findIdx_cons, decide_eq_false hb, cond_false]

theorem spelled_cons (groups value : Nat) (b : UInt8) (data : Bytes) :
    spelled (groups + 1) value (b :: data) =
      spelled groups (128 * value + b.toNat % 128) data := by
  rw [spelled, spelled, List.take_succ_cons, List.foldl_cons, List.getElem?_cons_succ]

theorem spelled_last (groups value : Nat) (b : UInt8) :
    spelled (groups + 1) value [b] = 128 * value + b.toNat % 128 := by
  rw [spelled_cons, spelled, List.getElem?_nil, List.take_nil, List.foldl_nil]

/-- Reading takes in the bits of each byte in turn, and stops where the varint ends. -/
theorem readFrom_eq (groups value : Nat) (data : Bytes) :
    readFrom groups value data =
      if extent groups data ≤ data.length then
        some (spelled groups value (data.take (extent groups data)), extent groups data)
      else none := by
  induction groups generalizing value data with
  | zero =>
    rw [extent_zero]
    cases data with
    | nil => rfl
    | cons b data => rfl
  | succ groups ih =>
    cases data with
    | nil => rfl
    | cons b data =>
      by_cases hb : b < 128
      · have hone : 1 ≤ (b :: data).length := Nat.le_add_left _ _
        rw [readFrom_last hb, extent_of_last hb, if_pos hone, List.take_succ_cons, List.take_zero,
          spelled_last, toNat_mod_of_last hb]
      · rw [readFrom, if_neg hb, extent_of_more hb, List.take_succ_cons, spelled_cons,
          ← toNat_mod_of_more hb, ih, List.length_cons]
        by_cases hinside : extent groups data ≤ data.length
        · rw [if_pos hinside, if_pos (Nat.succ_le_succ hinside), Option.map_some]
        · rw [if_neg hinside, if_neg (mt Nat.le_of_succ_le_succ hinside), Option.map_none]

/-- A varint is cut short where there is no last byte for it. -/
theorem length_lt_extent_iff {groups : Nat} {data : Bytes} :
    data.length < extent groups data ↔ data.length ≤ groups ∧ ∀ b ∈ data, 128 ≤ b := by
  have hle : (data.take groups).findIdx (· < 128) ≤ (data.take groups).length :=
    List.findIdx_le_length
  rw [List.length_take] at hle
  constructor
  · intro h
    rw [extent] at h
    have hshort : data.length ≤ groups := by omega
    rw [List.take_of_length_le hshort] at h hle
    refine ⟨hshort, fun b hb ↦ ?_⟩
    have hend : data.findIdx (· < 128) = data.length := by omega
    exact UInt8.not_lt.mp (of_decide_eq_false (List.findIdx_eq_length.mp hend b hb))
  · rintro ⟨hshort, hall⟩
    have hend : data.findIdx (· < 128) = data.length :=
      List.findIdx_eq_length.mpr fun b hb ↦ decide_eq_false (UInt8.not_lt.mpr (hall b hb))
    rw [extent, List.take_of_length_le hshort, hend]
    exact Nat.lt_succ_self _

/-- The bytes begin with a varint: one of the first eight is a last one, or there is a ninth. -/
def IsWhole (data : Bytes) : Prop :=
  9 ≤ data.length ∨ ∃ b ∈ data.take 8, b < 128

theorem isWhole_iff {data : Bytes} : IsWhole data ↔ extent 8 data ≤ data.length := by
  rw [← Nat.not_lt, length_lt_extent_iff, IsWhole]
  by_cases hlong : 9 ≤ data.length
  · exact iff_of_true (.inl hlong) fun hshort ↦ Nat.not_le.mpr hlong hshort.1
  · have hshort : data.length ≤ 8 := Nat.le_of_lt_succ (Nat.not_le.mp hlong)
    rw [List.take_of_length_le hshort]
    simp [hlong, hshort]

theorem read_eq_error {data : Bytes} (h : data.length < extent 8 data) :
    read data = .error (.truncated .varint (data.length + 1) data.length) := by
  rw [read, readFrom_eq, if_neg (Nat.not_le.mpr h)]

theorem exists_read_eq_ok {data : Bytes} (h : extent 8 data ≤ data.length) :
    ∃ value, read data = .ok (value, extent 8 data) ∧
      value.toNat = spelled 8 0 (data.take (extent 8 data)) := by
  have hread : readFrom 8 0 data =
      some (spelled 8 0 (data.take (extent 8 data)), extent 8 data) := by
    rw [readFrom_eq, if_pos h]
  have hlt : spelled 8 0 (data.take (extent 8 data)) < UInt64.size := readFrom_lt hread
  refine ⟨.ofNat (spelled 8 0 (data.take (extent 8 data))), ?_, UInt64.toNat_ofNat_of_lt' hlt⟩
  rw [read, hread]

/-- Reading fails exactly where fewer than nine bytes are left and each has its top bit set.
Anywhere else it stops behind the first of eight bytes with its top bit clear, or behind the ninth,
has all bits of the number that those bytes spell, and depends on no other byte. -/
theorem readAt_spelled (data : Bytes) (offset : Nat) :
    let left := data.drop offset
    let size := extent 8 left
    (left.length < 9 ∧ (∀ b ∈ left, 128 ≤ b) →
      readAt data offset = .error (.truncated .varint (left.length + 1) left.length)) ∧
    (¬(left.length < 9 ∧ ∀ b ∈ left, 128 ≤ b) → size ≤ left.length ∧
      ∃ value, readAt data offset = .ok (value, size) ∧
        value.toNat = spelled 8 0 (left.take size) ∧
        ∀ data' offset', (data'.drop offset').take size = left.take size →
          readAt data' offset' = .ok (value, size)) := by
  intro left size
  have hcut : left.length < size ↔ left.length < 9 ∧ ∀ b ∈ left, 128 ≤ b := by
    rw [length_lt_extent_iff, Nat.lt_succ_iff]
  constructor
  · intro h
    exact read_eq_error (hcut.mpr h)
  · intro h
    have hinside : size ≤ left.length := Nat.not_lt.mp (mt hcut.mp h)
    obtain ⟨value, hread, hvalue⟩ := exists_read_eq_ok hinside
    refine ⟨hinside, value, hread, hvalue, fun data' offset' hagree ↦ ?_⟩
    have hlocal := (read_local hread).2 ((data'.drop offset').drop size)
    rwa [← hagree, List.take_append_drop] at hlocal

/-- A varint of nine bytes, of which the last adds eight bits, and the first eight of them alone. -/
theorem readAt_spelled_nineBytes :
    readAt [7, 0x81, 0x80, 0x80, 0x80, 0x80, 0x80, 0x80, 0xFF, 0xFE, 9] 1 =
      .ok (144115188075888638, 9) ∧
    readAt [0x81, 0x80, 0x80, 0x80, 0x80, 0x80, 0x80, 0xFF, 0xFE] 0 =
      .ok (144115188075888638, 9) ∧
    readAt [7, 0x81, 0x80, 0x80, 0x80, 0x80, 0x80, 0x80, 0xFF] 1 =
      .error (.truncated .varint 9 8) := by
  obtain ⟨-, hwhole⟩ :=
    readAt_spelled [7, 0x81, 0x80, 0x80, 0x80, 0x80, 0x80, 0x80, 0xFF, 0xFE, 9] 1
  obtain ⟨hcut, -⟩ := readAt_spelled [7, 0x81, 0x80, 0x80, 0x80, 0x80, 0x80, 0x80, 0xFF] 1
  obtain ⟨-, value, hread, hvalue, hlocal⟩ := hwhole (by decide +kernel)
  obtain rfl : value = 144115188075888638 := UInt64.toNat_inj.mp hvalue
  exact ⟨hread, hlocal _ 0 rfl, hcut (by decide +kernel)⟩

end TableFile.Varint
