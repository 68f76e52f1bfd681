import TableFile.Proofs.Except
import TableFile.Proofs.Text.Keyword
import TableFile.Schema.Basic

namespace TableFile.Schema

theorem partition_table {entry : SchemaEntry} (h : entry.kind = "table") :
    partition [entry] = .ok ([entry], []) := by
  rw [partition, h]
  rfl

/-- A table whose name no other entry has is found wherever its entry stands. -/
theorem ofEntries_eq_ok {name table sql : String} {rootPage : UInt32} {columns : List Column}
    {before after : List SchemaEntry}
    (hothers : ∀ entry ∈ before ++ after, Text.sameName entry.table table = false)
    (hsql : Definition.columns sql = .ok columns) :
    ofEntries (before ++ ⟨"table", name, table, rootPage, some sql⟩ :: after) table =
      .ok ⟨name, columns, rootPage, none⟩ := by
  have hself := Text.sameName_self table
  have hbefore : before.filter (fun entry ↦ Text.sameName entry.table table) = [] := by
    rw [List.filter_eq_nil_iff]
    intro entry hentry
    simp [hothers entry (List.mem_append_left _ hentry)]
  have hafter : after.filter (fun entry ↦ Text.sameName entry.table table) = [] := by
    rw [List.filter_eq_nil_iff]
    intro entry hentry
    simp [hothers entry (List.mem_append_right _ hentry)]
  rw [ofEntries, List.filter_append, hbefore, List.filter_cons, if_pos hself, hafter,
    List.nil_append, partition_table rfl]
  simp only [Except.ok_bind, hsql, findIndex, Except.pure_eq_ok]

end TableFile.Schema
