import TableFile.Page.Basic
import TableFile.Proofs.Except
import TableFile.Proofs.Varint

namespace TableFile

theorem Cell.kind_of_read {kind : Page.Kind} {data : Bytes} {cell : Cell}
    (h : read kind data = .ok cell) : cell.kind = kind := by
  cases kind <;> simp only [read, Except.bind_eq_ok_iff, Except.pure_eq_ok, Except.ok.injEq] at h
  case tableLeaf =>
    obtain ⟨_, _, _, _, _, _, rfl⟩ := h
    rfl
  case tableInterior =>
    obtain ⟨_, _, _, _, rfl⟩ := h
    rfl
  case indexLeaf =>
    obtain ⟨_, _, _, _, rfl⟩ := h
    rfl
  case indexInterior =>
    obtain ⟨_, _, _, _, _, _, rfl⟩ := h
    rfl

namespace Cell

theorem payload_suffix_encode {cell : Cell} {payload : Bytes} (h : cell.payload? = some payload) :
    payload <:+ cell.encode := by
  cases cell with
  | tableInterior => cases h
  | tableLeaf | indexInterior | indexLeaf =>
    obtain rfl := Option.some.inj h
    exact List.suffix_append _ _

theorem encode_ne_nil (cell : Cell) : cell.encode ≠ [] := by
  cases cell <;> simp [encode, Varint.encode_ne_nil]

theorem lt_length_of_drop_eq {cell : Cell} {data rest : Bytes} {offset : Nat}
    (h : data.drop offset = cell.encode ++ rest) : offset < data.length := by
  by_contra hle
  rw [List.drop_eq_nil_of_le (Nat.le_of_not_lt hle)] at h
  exact cell.encode_ne_nil (List.append_eq_nil_iff.mp h.symm).1

end Cell

theorem Page.kind_of_mem_cells {page : Page} {cell : Cell} (h : .ok cell ∈ page.cells) :
    cell.kind = page.kind := by
  obtain ⟨pointer, -, h⟩ := List.mem_map.mp h
  rw [Page.cellAt, Cell.decode] at h
  split at h
  · cases h
  · exact Cell.kind_of_read h

end TableFile
