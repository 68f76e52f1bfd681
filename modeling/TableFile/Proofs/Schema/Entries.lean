import TableFile.Proofs.Database.Layout

namespace TableFile

namespace Definition

variable {sql : String} {e : Error}

theorem exists_fault_of_columns (h : columns sql = .error e) :
    ∃ fault, e = .badDefinition fault := by
  rcases Except.bind_eq_error_iff.mp h with h | ⟨list, -, h⟩
  · unfold columnList at h
    split at h
    · exact ⟨_, (Except.error.inj h).symm⟩
    · split at h
      · cases h
      · split at h <;> exact ⟨_, (Except.error.inj h).symm⟩
  · cases h

theorem exists_fault_of_indexColumn? (h : indexColumn? sql = .error e) :
    ∃ fault, e = .badDefinition fault := by
  unfold indexColumn? at h
  split at h
  · exact ⟨_, (Except.error.inj h).symm⟩
  · dsimp only at h
    split at h
    · exact ⟨_, (Except.error.inj h).symm⟩
    · split at h <;> cases h

end Definition

namespace Schema

def entriesOf (kind table : String) (entries : List SchemaEntry) : List SchemaEntry :=
  entries.filter fun entry ↦ entry.kind = kind && Text.sameName entry.table table

variable {entries entries' : List SchemaEntry} {table : String} {schema : Schema} {e : Error}

theorem partition_eq (entries : List SchemaEntry) :
    partition entries =
      match entries.find? fun entry ↦ entry.kind ≠ "table" && entry.kind ≠ "index" with
      | some entry => .error (.unknownObjectKind entry.kind)
      | none => .ok (entries.filter (·.kind = "table"), entries.filter (·.kind = "index")) := by
  induction entries with
  | nil => rfl
  | cons entry entries ih =>
    rw [partition, ih]
    by_cases htable : entry.kind = "table"
    · have hkind : ObjectKind.ofText entry.kind = .ok .table := by
        rw [ObjectKind.ofText, if_pos htable]
      rw [hkind, List.find?_cons_of_neg (by simp [htable]),
        List.filter_cons_of_pos (by simp [htable]), List.filter_cons_of_neg (by simp [htable])]
      cases entries.find? fun entry ↦ entry.kind ≠ "table" && entry.kind ≠ "index" <;> rfl
    · by_cases hindex : entry.kind = "index"
      · have hkind : ObjectKind.ofText entry.kind = .ok .index := by
          rw [ObjectKind.ofText, if_neg htable, if_pos hindex]
        rw [hkind, List.find?_cons_of_neg (by simp [hindex]),
          List.filter_cons_of_neg (by simp [htable]), List.filter_cons_of_pos (by simp [hindex])]
        cases entries.find? fun entry ↦ entry.kind ≠ "table" && entry.kind ≠ "index" <;> rfl
      · have hkind : ObjectKind.ofText entry.kind = .error (.unknownObjectKind entry.kind) := by
          rw [ObjectKind.ofText, if_neg htable, if_neg hindex]
        rw [hkind, List.find?_cons_of_pos (by simp [htable, hindex])]
        rfl

/-- Of the entries of a table, those of each kind are its entries of that kind. -/
theorem filter_kind (kind : String) :
    (entries.filter fun entry ↦ Text.sameName entry.table table).filter (·.kind = kind) =
      entriesOf kind table entries := by
  rw [List.filter_filter, entriesOf]

theorem partition_filter (h : ∀ entry ∈ entries, Text.sameName entry.table table →
      entry.kind = "table" ∨ entry.kind = "index") :
    partition (entries.filter fun entry ↦ Text.sameName entry.table table) =
      .ok (entriesOf "table" table entries, entriesOf "index" table entries) := by
  have hfind : (entries.filter fun entry ↦ Text.sameName entry.table table).find?
      (fun entry ↦ entry.kind ≠ "table" && entry.kind ≠ "index") = none := by
    rw [List.find?_eq_none]
    intro entry hentry
    obtain ⟨hmem, hname⟩ := List.mem_filter.mp hentry
    rcases h entry hmem hname with hkind | hkind <;> simp [hkind]
  rw [partition_eq, hfind]
  simp only [filter_kind]

/-- What is said about a table is said by the first of its entries of the kind `table`, and by those
of the kind `index`. -/
theorem exists_parts_of_ofEntries (h : ofEntries entries table = .ok schema) :
    ∃ entry others sql, entriesOf "table" table entries = entry :: others ∧
      entry.sql = some sql ∧ schema.table = entry.name ∧ schema.rootPage = entry.rootPage ∧
      Definition.columns sql = .ok schema.columns ∧
      findIndex { schema with index := none } (entriesOf "index" table entries) =
        .ok schema.index := by
  obtain ⟨⟨tables, indexes⟩, hpartition, h⟩ := Except.bind_eq_ok_iff.mp h
  rw [partition_eq] at hpartition
  split at hpartition
  · cases hpartition
  · obtain ⟨rfl, rfl⟩ := Prod.mk.inj (Except.ok.inj hpartition)
    simp only [filter_kind] at h
    split at h
    · cases h
    · next entry others htables =>
      split at h
      · cases h
      · next sql hsql =>
        obtain ⟨columns, hcolumns, h⟩ := Except.bind_eq_ok_iff.mp h
        obtain ⟨index, hindex, h⟩ := Except.bind_eq_ok_iff.mp h
        obtain rfl := Except.ok.inj h
        exact ⟨entry, others, sql, htables, hsql, rfl, rfl, hcolumns, hindex⟩

/-- Whatever else a table has, what is said about it begins with the first of its entries of the
kind `table`. -/
theorem exists_entry_of_ofEntries (h : ofEntries entries table = .ok schema) :
    ∃ entry others sql, entriesOf "table" table entries = entry :: others ∧
      entry.sql = some sql ∧ schema.table = entry.name ∧ schema.rootPage = entry.rootPage ∧
      Definition.columns sql = .ok schema.columns := by
  obtain ⟨entry, others, sql, htables, hsql, hname, hroot, hcolumns, -⟩ :=
    exists_parts_of_ofEntries h
  exact ⟨entry, others, sql, htables, hsql, hname, hroot, hcolumns⟩

theorem exists_fault_of_findIndex (h : findIndex schema entries = .error e) :
    (∃ fault, e = .badDefinition fault) ∨ ∃ name, e = .unknownColumn name schema.table := by
  induction entries with
  | nil => cases h
  | cons entry entries ih =>
    rw [findIndex] at h
    rcases Except.bind_eq_error_iff.mp h with h | ⟨found, -, h⟩
    · cases hsql : entry.sql with
      | none =>
        rw [hsql] at h
        cases h
      | some sql =>
        rw [hsql] at h
        exact .inl (Definition.exists_fault_of_indexColumn? h)
    · cases found with
      | none => exact ih h
      | some name =>
        rcases Except.bind_eq_error_iff.mp h with h | ⟨column, -, h⟩
        · unfold column at h
          split at h
          · cases h
          · exact .inr ⟨name, (Except.error.inj h).symm⟩
        · cases h

/-- A table is unknown just if it has no entries but those of indexes. -/
theorem ofEntries_eq_unknownTable_iff {name : String} :
    ofEntries entries table = .error (.unknownTable name) ↔ name = table ∧
      ∀ entry ∈ entries, Text.sameName entry.table table → entry.kind = "index" := by
  constructor
  · intro h
    rcases Except.bind_eq_error_iff.mp h with h | ⟨⟨tables, indexes⟩, hpartition, h⟩
    · rw [partition_eq] at h
      split at h <;> cases h
    · rw [partition_eq] at hpartition
      split at hpartition
      · cases hpartition
      · next hfind =>
        obtain ⟨rfl, rfl⟩ := Prod.mk.inj (Except.ok.inj hpartition)
        simp only [filter_kind] at h
        split at h
        · next htables =>
          refine ⟨Error.unknownTable.inj (Except.error.inj h).symm, fun entry hentry hname ↦ ?_⟩
          have hknown := List.find?_eq_none.mp hfind entry (List.mem_filter.mpr ⟨hentry, hname⟩)
          have hother := List.filter_eq_nil_iff.mp htables entry hentry
          simp_all
        · split at h
          · cases h
          · rcases Except.bind_eq_error_iff.mp h with h | ⟨columns, -, h⟩
            · obtain ⟨fault, heq⟩ := Definition.exists_fault_of_columns h
              cases heq
            · rcases Except.bind_eq_error_iff.mp h with h | ⟨index, -, h⟩
              · rcases exists_fault_of_findIndex h with ⟨fault, heq⟩ | ⟨column, heq⟩ <;> cases heq
              · cases h
  · rintro ⟨rfl, h⟩
    have htables : entriesOf "table" name entries = [] := by
      rw [entriesOf, List.filter_eq_nil_iff]
      intro entry hentry hkind
      obtain ⟨hkind, hname⟩ := Bool.and_eq_true_iff.mp hkind
      have hindex := h entry hentry hname
      simp_all
    rw [ofEntries, partition_filter fun entry hentry hname ↦ .inr (h entry hentry hname), htables]
    rfl

/-- What is said about a table depends on nothing but its entries of the kinds `table` and `index`,
each kind in order. The name, the root page and the columns are those of its first entry of the
kind `table`. -/
theorem ofPage_of_entriesOf {page page' : Page} (hentries : page.schemaEntries = .ok entries)
    (hentries' : page'.schemaEntries = .ok entries')
    (hkinds : ∀ entry ∈ entries, Text.sameName entry.table table →
      entry.kind = "table" ∨ entry.kind = "index")
    (hkinds' : ∀ entry ∈ entries', Text.sameName entry.table table →
      entry.kind = "table" ∨ entry.kind = "index")
    (htables : entriesOf "table" table entries' = entriesOf "table" table entries)
    (hindexes : entriesOf "index" table entries' = entriesOf "index" table entries) :
    ofPage page' table = ofPage page table ∧
    ∀ schema, ofPage page table = .ok schema →
      ∃ entry others sql, entriesOf "table" table entries = entry :: others ∧
        entry.sql = some sql ∧ schema.table = entry.name ∧ schema.rootPage = entry.rootPage ∧
        Definition.columns sql = .ok schema.columns := by
  rw [ofPage, ofPage, hentries, hentries', Except.ok_bind, Except.ok_bind]
  constructor
  · rw [ofEntries, ofEntries, partition_filter hkinds, partition_filter hkinds', htables, hindexes]
  · intro schema h
    exact exists_entry_of_ofEntries h

def indexFirst : List SchemaEntry :=
  [⟨"index", "i", "T", 3, some "create index i on t (B)"⟩, ⟨"view", "v", "v", 0, none⟩,
    ⟨"table", "t", "t", 2, some "create table t (a, b)"⟩, ⟨"index", "j", "t", 4, none⟩]

def tableFirst : List SchemaEntry :=
  [⟨"table", "t", "t", 2, some "create table t (a, b)"⟩, ⟨"trigger", "r", "u", 0, none⟩,
    ⟨"index", "i", "T", 3, some "create index i on t (B)"⟩, ⟨"index", "j", "t", 4, none⟩,
    ⟨"table", "u", "u", 5, some "create"⟩]

theorem ofPage_of_entriesOf_indexFirst :
    ∃ page page' : Page, page.schemaEntries = .ok indexFirst ∧
      page'.schemaEntries = .ok tableFirst ∧ ofPage page' "T" = ofPage page "T" ∧
      ofPage page "T" = .ok ⟨"t", [⟨"a", "", 0, false⟩, ⟨"b", "", 1, false⟩], 2,
        some ⟨"i", "B", 1, 3⟩⟩ ∧
      ∃ entry others sql, entriesOf "table" "T" indexFirst = entry :: others ∧
        entry.sql = some sql ∧ entry.name = "t" ∧
        Definition.columns sql = .ok [⟨"a", "", 0, false⟩, ⟨"b", "", 1, false⟩] := by
  have hfile : Database.layout? 512 indexFirst [] =
      some ((Database.layout? 512 indexFirst []).getD []) := by decide +kernel
  have hfile' : Database.layout? 512 tableFirst [] =
      some ((Database.layout? 512 tableFirst []).getD []) := by decide +kernel
  obtain ⟨page, -, hentries⟩ := Database.exists_firstPage (by decide) hfile
  obtain ⟨page', -, hentries'⟩ := Database.exists_firstPage (by decide) hfile'
  have hschema : ofPage page "T" = .ok ⟨"t", [⟨"a", "", 0, false⟩, ⟨"b", "", 1, false⟩], 2,
      some ⟨"i", "B", 1, 3⟩⟩ := by
    rw [ofPage, hentries, Except.ok_bind]
    decide +kernel
  have hkinds : ∀ entry ∈ indexFirst, Text.sameName entry.table "T" →
      entry.kind = "table" ∨ entry.kind = "index" := by decide +kernel
  have hkinds' : ∀ entry ∈ tableFirst, Text.sameName entry.table "T" →
      entry.kind = "table" ∨ entry.kind = "index" := by decide +kernel
  obtain ⟨hsame, hfirst⟩ := ofPage_of_entriesOf hentries hentries' hkinds hkinds' rfl rfl
  obtain ⟨entry, others, sql, hothers, hsql, hname, -, hcolumns⟩ := hfirst _ hschema
  exact ⟨page, page', hentries, hentries', hsame, hschema, entry, others, sql, hothers, hsql,
    hname.symm, hcolumns⟩

end Schema

end TableFile
