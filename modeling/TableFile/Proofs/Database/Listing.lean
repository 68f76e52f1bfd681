import TableFile.Proofs.Page.Format
import TableFile.Proofs.Schema.Entries

namespace TableFile

theorem Page.exists_decode_of_ofFile {file : Bytes} {pageSize : Nat} {number : UInt32} {page : Page}
    (h : ofFile file pageSize number = .ok page) : ∃ data, decode data number = .ok page := by
  unfold ofFile at h
  split at h
  · cases h
  · dsimp only at h
    split at h
    · exact ⟨_, h⟩
    · cases h

theorem Page.toNat_cellCount_header {data : Bytes} {number : UInt32} {page : Page}
    (h : decode data number = .ok page) : page.header.cellCount.toNat = page.cellCount := by
  obtain ⟨-, -, hcount, hpointers, -⟩ := of_decode h
  rw [hcount, cellCount, hpointers, statedPointers, List.length_map, List.length_range]

theorem Page.length_schemaEntries {page : Page} {entries : List SchemaEntry}
    (h : page.schemaEntries = .ok entries) : entries.length = page.cellCount := by
  unfold schemaEntries at h
  split at h
  · have hlength := (Except.mapM_eq_ok_iff.mp h).length_eq
    rw [cells, List.length_map] at hlength
    exact hlength.symm
  · cases h

namespace Database

variable {db : Database} {entries : List SchemaEntry}

theorem schema_eq_ofEntries (h : db.entries = .ok entries) (table : String) :
    db.schema table = Schema.ofEntries entries table := by
  obtain ⟨page, hpage, hentries⟩ := Except.bind_eq_ok_iff.mp h
  rw [schema, hpage, Except.ok_bind, Schema.ofPage, hentries, Except.ok_bind]

theorem entryCount_eq_length (h : db.entries = .ok entries) :
    db.entryCount = .ok entries.length := by
  obtain ⟨page, hpage, hentries⟩ := Except.bind_eq_ok_iff.mp h
  obtain ⟨data, hdecode⟩ : ∃ data, Page.decode data 1 = .ok page :=
    Page.exists_decode_of_ofFile hpage
  rw [entryCount, hpage, Except.ok_bind, Page.toNat_cellCount_header hdecode,
    Page.length_schemaEntries hentries]
  rfl

/-- A table that is not listed is unknown just if all entries of its name are those of indexes, and
one that is listed is never unknown. -/
theorem schema_eq_unknownTable_iff_listed (h : db.entries = .ok entries) :
    db.entryCount = .ok entries.length ∧
    ∃ names, db.tables = .ok names ∧ names = (entries.filter (·.kind = "table")).map (·.table) ∧
      (∀ table name, db.schema table = .error (.unknownTable name) ↔ name = table ∧
        (∀ listed ∈ names, Text.sameName listed table = false) ∧
        ∀ entry ∈ entries, Text.sameName entry.table table → entry.kind = "index") ∧
      ∀ listed ∈ names, ∀ name, db.schema listed ≠ .error (.unknownTable name) := by
  have hunknown (table name : String) : db.schema table = .error (.unknownTable name) ↔
      name = table ∧ ∀ entry ∈ entries, Text.sameName entry.table table → entry.kind = "index" := by
    rw [schema_eq_ofEntries h, Schema.ofEntries_eq_unknownTable_iff]
  have hlisted (table : String)
      (hindex : ∀ entry ∈ entries, Text.sameName entry.table table → entry.kind = "index") :
      ∀ listed ∈ (entries.filter (·.kind = "table")).map (·.table),
        Text.sameName listed table = false := by
    intro listed hmem
    obtain ⟨entry, hentry, rfl⟩ := List.mem_map.mp hmem
    obtain ⟨hentry, hkind⟩ := List.mem_filter.mp hentry
    rw [← Bool.not_eq_true]
    intro hname
    have hindex := hindex entry hentry hname
    simp_all
  refine ⟨entryCount_eq_length h, _, ?_, rfl, ?_, ?_⟩
  · rw [tables, h]
    rfl
  · intro table name
    rw [hunknown]
    constructor
    · rintro ⟨hname, hindex⟩
      exact ⟨hname, hlisted table hindex, hindex⟩
    · rintro ⟨hname, -, hindex⟩
      exact ⟨hname, hindex⟩
  · intro listed hmem name hschema
    have hself : Text.sameName listed listed = true := by simp [Text.sameName, Text.sameLetters]
    have hother := hlisted listed ((hunknown listed name).mp hschema).2 listed hmem
    rw [hself] at hother
    cases hother

/-- An index whose table has no entry of its own is not listed, and its table is unknown. -/
theorem schema_eq_unknownTable_iff_listed_indexOnly :
    ∃ db : Database, db.entries = .ok (⟨"index", "k", "w", 6, none⟩ :: Schema.tableFirst) ∧
      db.entryCount = .ok 6 ∧ db.tables = .ok ["t", "u"] ∧
      db.schema "W" = .error (.unknownTable "W") ∧
      ∀ name, db.schema "t" ≠ .error (.unknownTable name) := by
  have hfile : layout? 512 (⟨"index", "k", "w", 6, none⟩ :: Schema.tableFirst) [] =
      some ((layout? 512 (⟨"index", "k", "w", 6, none⟩ :: Schema.tableFirst) []).getD []) := by
    decide +kernel
  obtain ⟨page, hpage, hpageEntries⟩ := exists_firstPage (by decide) hfile
  have hentries := Except.bind_eq_ok_iff.mpr ⟨page, hpage, hpageEntries⟩
  obtain ⟨hcount, names, htables, rfl, hunknown, hlisted⟩ :=
    schema_eq_unknownTable_iff_listed hentries
  refine ⟨_, hentries, hcount, htables, ?_, hlisted "t" (by decide +kernel)⟩
  rw [hunknown]
  decide +kernel

end Database

end TableFile
