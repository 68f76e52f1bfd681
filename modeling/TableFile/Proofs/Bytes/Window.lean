import TableFile.Bytes.Lemmas

namespace TableFile.Bytes

def window (data : Bytes) (start size : Nat) : Bytes :=
  (data.drop start).take size

variable {data data' : Bytes} {start size : Nat}

theorem length_window (h : start + size ≤ data.length) :
    (data.window start size).length = size := by
  rw [window, List.length_take, List.length_drop]
  omega

theorem window_eq_drop_take : data.window start size = (data.take (start + size)).drop start := by
  rw [window, List.drop_take, Nat.add_sub_cancel_left]

theorem window_drop (n : Nat) :
    Bytes.window (data.drop n) start size = data.window (n + start) size := by
  rw [window, List.drop_drop, window]

theorem take_congr {stop : Nat} (h : data'.take stop = data.take stop) (hsize : size ≤ stop) :
    data'.take size = data.take size := by
  rw [← Nat.min_eq_left hsize, ← List.take_take, ← List.take_take, h]

theorem window_congr {stop : Nat} (h : data'.take stop = data.take stop)
    (hstop : start + size ≤ stop) : data'.window start size = data.window start size := by
  rw [window_eq_drop_take, window_eq_drop_take, take_congr h hstop]

theorem splitAt?_of_le (h : size ≤ data.length) :
    splitAt? size data = some (data.take size, data.drop size) :=
  splitAt?_eq_some_iff.mpr ⟨List.length_take_of_le h, List.take_append_drop size data |>.symm⟩

end TableFile.Bytes
