import TableFile.Error
import TableFile.Proofs.Bytes.Window
import TableFile.Proofs.Except

namespace TableFile

/-- What a run comes to where sizes are words of 64 bits and memory suffices. It is stuck where a
sum or a product is no word, a difference is negative, or what is cut out of bytes does not lie in
them. -/
inductive Machine (α : Type) where
  | done (a : α)
  | failed (e : Error)
  | stuck

namespace Machine

variable {α β : Type}

instance : Monad Machine where
  pure := done
  bind
    | done a, f => f a
    | failed e, _ => failed e
    | stuck, _ => stuck

@[simp] theorem pure_eq_done (a : α) : (pure a : Machine α) = done a := rfl

@[simp] theorem done_bind (a : α) (f : α → Machine β) : done a >>= f = f a := rfl

@[simp] theorem failed_bind (e : Error) (f : α → Machine β) : failed e >>= f = failed e := rfl

theorem bind_eq_done_iff {x : Machine α} {f : α → Machine β} {b : β} :
    x >>= f = done b ↔ ∃ a, x = done a ∧ f a = done b := by
  cases x with
  | done a => simp
  | failed e => exact ⟨nofun, fun ⟨_, h, _⟩ ↦ nomatch h⟩
  | stuck => exact ⟨nofun, fun ⟨_, h, _⟩ ↦ nomatch h⟩

def ofExcept : Except Error α → Machine α
  | .ok a => done a
  | .error e => failed e

@[simp] theorem ofExcept_ok (a : α) : ofExcept (.ok a) = done a := rfl

@[simp] theorem ofExcept_error (e : Error) : ofExcept (.error e : Except Error α) = failed e := rfl

theorem ofExcept_eq_done_iff {x : Except Error α} {a : α} : ofExcept x = done a ↔ x = .ok a := by
  cases x <;> simp

@[simp] theorem ofExcept_bind (x : Except Error α) (f : α → Except Error β) :
    ofExcept (x >>= f) = ofExcept x >>= fun a ↦ ofExcept (f a) := by
  cases x <;> rfl

def add (m n : Nat) : Machine Nat :=
  if m + n < UInt64.size then done (m + n) else stuck

theorem add_eq {m n : Nat} (h : m + n < UInt64.size) : add m n = done (m + n) :=
  if_pos h

theorem add_eq_of_lt {m n : Nat} (hm : m < 2 ^ 63) (hn : n < 2 ^ 63) : add m n = done (m + n) :=
  add_eq (show m + n < 2 ^ 64 by omega)

theorem eq_of_add_eq_done {m n k : Nat} (h : add m n = done k) : k = m + n := by
  unfold add at h
  split at h
  · exact (done.inj h).symm
  · cases h

def mul (m n : Nat) : Machine Nat :=
  if m * n < UInt64.size then done (m * n) else stuck

theorem mul_eq_of_lt {m n : Nat} (h : m * n < 2 ^ 63) : mul m n = done (m * n) :=
  if_pos (show m * n < 2 ^ 64 by omega)

def sub (m n : Nat) : Machine Nat :=
  if n ≤ m then done (m - n) else stuck

theorem sub_eq {m n : Nat} (h : n ≤ m) : sub m n = done (m - n) :=
  if_pos h

def index (data : Bytes) (i : Nat) : Machine UInt8 :=
  match data[i]? with
  | some b => done b
  | none => stuck

theorem index_eq {data : Bytes} {i : Nat} (h : i < data.length) : index data i = done data[i] := by
  rw [index, List.getElem?_eq_getElem h]

/-- The bytes from `start` up to `stop`. There is no harm in asking for more than there are. -/
def slice? (data : Bytes) (start stop : Nat) : Option Bytes :=
  if start ≤ stop ∧ stop ≤ data.length then some (data.window start (stop - start)) else none

def slice (data : Bytes) (start stop : Nat) : Machine Bytes :=
  match slice? data start stop with
  | some bytes => done bytes
  | none => stuck

theorem slice_eq {data : Bytes} {start stop : Nat} (h : start ≤ stop) (hstop : stop ≤ data.length) :
    slice data start stop = done (data.window start (stop - start)) := by
  rw [slice, slice?, if_pos ⟨h, hstop⟩]

theorem slice?_eq {data : Bytes} {start : Nat} (h : start ≤ data.length) (size : Nat) :
    slice? data start (start + size) = (Bytes.splitAt? size (data.drop start)).map Prod.fst := by
  rw [slice?, Bytes.splitAt?, List.length_take, List.length_drop, Nat.add_sub_cancel_left]
  by_cases hsize : start + size ≤ data.length
  · rw [if_pos ⟨Nat.le_add_right _ _, hsize⟩, if_pos (by omega)]
    rfl
  · rw [if_neg fun h ↦ hsize h.2, if_neg (by omega)]
    rfl

theorem slice?_length (data : Bytes) (start : Nat) :
    (slice? data start data.length).getD [] = data.drop start := by
  rw [slice?]
  split
  · exact List.take_of_length_le (List.length_drop ▸ Nat.le_refl _)
  · rw [List.drop_of_length_le (by omega)]
    rfl

/-- Fills `size` bytes with those of `source`, which have to be as many. -/
def copy (size : Nat) (source : Bytes) : Machine Bytes :=
  if source.length = size then done source else stuck

theorem copy_eq {size : Nat} {source : Bytes} (h : source.length = size) :
    copy size source = done source :=
  if_pos h

def splitTo (size : Nat) (data : Bytes) : Machine (Bytes × Bytes) :=
  if size ≤ data.length then done (data.take size, data.drop size) else stuck

theorem splitTo_eq {size : Nat} {data : Bytes} (h : size ≤ data.length) :
    splitTo size data = done (data.take size, data.drop size) :=
  if_pos h

def advance (size : Nat) (data : Bytes) : Machine Bytes :=
  if size ≤ data.length then done (data.drop size) else stuck

theorem advance_eq {size : Nat} {data : Bytes} (h : size ≤ data.length) :
    advance size data = done (data.drop size) :=
  if_pos h

def bytesAt (data : Bytes) (start : Nat) : (width : Nat) → Machine Bytes
  | 0 => return []
  | width + 1 => do
    let b ← index data start
    let rest ← bytesAt data (start + 1) width
    return b :: rest

theorem bytesAt_eq {data : Bytes} {start width : Nat} (h : start + width ≤ data.length) :
    bytesAt data start width = done (data.window start width) := by
  induction width generalizing start with
  | zero => simp [bytesAt, Bytes.window]
  | succ width ih =>
    have hstart : start < data.length := by omega
    have hwindow :
        data.window start (width + 1) = data[start] :: data.window (start + 1) width := by
      rw [Bytes.window, List.drop_eq_getElem_cons hstart, List.take_succ_cons, Bytes.window]
    rw [bytesAt, index_eq hstart, done_bind, ih (by omega), done_bind, hwindow, pure_eq_done]

end Machine

end TableFile
