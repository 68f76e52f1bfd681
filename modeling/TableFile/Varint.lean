import TableFile.Error

namespace TableFile.Varint

/-- Reads on after the bits `value`, and counts the bytes read. Each of the next `groups` bytes
holds seven bits and says in its top bit whether another follows; the one behind them holds
eight. -/
def readFrom : (groups : Nat) → (value : Nat) → Bytes → Option (Nat × Nat)
  | _, _, [] => none
  | 0, value, b :: _ => some (256 * value + b.toNat, 1)
  | groups + 1, value, b :: data =>
    if b < 128 then some (128 * value + b.toNat, 1)
    else (readFrom groups (128 * value + (b.toNat - 128)) data).map fun r ↦ (r.1, r.2 + 1)

def read (data : Bytes) : Except Error (UInt64 × Nat) :=
  match readFrom 8 0 data with
  | some (value, size) => .ok (.ofNat value, size)
  | none => .error (.truncated .varint (data.length + 1) data.length)

def readAt (data : Bytes) (offset : Nat) : Except Error (UInt64 × Nat) :=
  read (data.drop offset)

theorem readFrom_size_pos {groups value n size : Nat} {data : Bytes}
    (h : readFrom groups value data = some (n, size)) : 0 < size := by
  fun_cases readFrom groups value data with
  | case1 => simp [readFrom] at h
  | case2 => simp only [readFrom, Option.some.injEq, Prod.mk.injEq] at h; omega
  | case3 groups value b data hb =>
    simp only [readFrom, if_pos hb, Option.some.injEq, Prod.mk.injEq] at h; omega
  | case4 groups value b data hb =>
    simp only [readFrom, if_neg hb, Option.map_eq_some_iff] at h
    obtain ⟨r, -, hr⟩ := h
    exact (Prod.mk.inj hr).2 ▸ Nat.succ_pos _

theorem read_size_pos {data : Bytes} {value : UInt64} {size : Nat}
    (h : read data = .ok (value, size)) : 0 < size := by
  rw [read] at h
  split at h
  · next h' => exact (Prod.mk.inj (Except.ok.inj h)).2 ▸ readFrom_size_pos h'
  · exact absurd h (by simp)

def groupsOf : (count : Nat) → (n : Nat) → Bytes
  | 0, _ => []
  | count + 1, n => groupsOf count (n / 128) ++ [.ofNat (128 + n % 128)]

def leastGroupsOf (n : Nat) : Bytes :=
  if n = 0 then [] else leastGroupsOf (n / 128) ++ [.ofNat (128 + n % 128)]
termination_by n

/-- The shortest form. From 2 ^ 56 on it has all nine bytes. -/
def encode (value : UInt64) : Bytes :=
  let n := value.toNat
  if n < 0x100000000000000 then leastGroupsOf (n / 128) ++ [.ofNat (n % 128)]
  else groupsOf 8 (n / 256) ++ [.ofNat (n % 256)]

end TableFile.Varint
