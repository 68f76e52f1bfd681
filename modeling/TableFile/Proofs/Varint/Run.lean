import TableFile.Proofs.Bytes.Window
import TableFile.Proofs.Varint.Extent

namespace TableFile.Varint

theorem readAt_congr {data data' : Bytes} {offset size : Nat} {value : UInt64}
    (h : readAt data offset = .ok (value, size))
    (hwindow : data'.window offset size = data.window offset size) :
    readAt data' offset = .ok (value, size) := by
  have hread := (read_local h).2 ((data'.drop offset).drop size)
  change (data'.drop offset).take size = (data.drop offset).take size at hwindow
  rwa [← hwindow, List.take_append_drop] at hread

inductive Run (data : Bytes) : (start stop : Nat) → List UInt64 → Prop
  | nil (stop : Nat) : Run data stop stop []
  | cons {start size stop : Nat} {value : UInt64} {values : List UInt64}
      (hread : readAt data start = .ok (value, size)) (hrun : Run data (start + size) stop values) :
      Run data start stop (value :: values)

namespace Run

variable {data : Bytes} {start stop : Nat} {values : List UInt64}

theorem start_le (h : Run data start stop values) : start ≤ stop := by
  induction h with
  | nil => exact le_rfl
  | cons hread hrun ih => exact (Nat.le_add_right _ _).trans ih

theorem congr {data' : Bytes} (h : Run data start stop values)
    (htake : data'.take stop = data.take stop) : Run data' start stop values := by
  induction h with
  | nil => exact .nil _
  | cons hread hrun ih =>
    exact .cons (readAt_congr hread (Bytes.window_congr htake hrun.start_le)) (ih htake)

end Run

end TableFile.Varint
