import TableFile.Proofs.Definition.RowId
import TableFile.Proofs.Schema.Index

namespace TableFile.Schema

/-- An index that is left out: one without a definition, or whose leading key is no plain column. -/
def IsPassedOver (entry : SchemaEntry) : Prop :=
  ∀ sql, entry.sql = some sql → Definition.indexColumn? sql = .ok none

variable {schema : Schema} {entry : SchemaEntry} {entries : List SchemaEntry} {table name : String}

section Index

theorem isPassedOver_iff :
    IsPassedOver entry ↔ entry.sql.elim (.ok none) Definition.indexColumn? = .ok none := by
  unfold IsPassedOver
  cases entry.sql with
  | none => simp
  | some sql => simp

theorem forall_isPassedOver_of_findIndex (h : schema.findIndex entries = .ok none) :
    ∀ entry ∈ entries, IsPassedOver entry := by
  induction entries with
  | nil => exact List.forall_mem_nil _
  | cons entry entries ih =>
    obtain ⟨found, hfound, h⟩ := Except.bind_eq_ok_iff.mp h
    cases found with
    | none => exact List.forall_mem_cons.mpr ⟨isPassedOver_iff.mpr hfound, ih h⟩
    | some name =>
      obtain ⟨column, -, h⟩ := Except.bind_eq_ok_iff.mp h
      cases h

/-- The search stops at the first entry that leads with a plain column. -/
theorem exists_entry_of_findIndex {index : Index}
    (h : schema.findIndex entries = .ok (some index)) :
    ∃ before entry after sql column, entries = before ++ entry :: after ∧
      (∀ other ∈ before, IsPassedOver other) ∧ entry.sql = some sql ∧
      Definition.indexColumn? sql = .ok (some index.column) ∧
      schema.column index.column = .ok column ∧
      index = ⟨entry.name, index.column, column.ordinal, entry.rootPage⟩ := by
  induction entries with
  | nil => cases h
  | cons entry entries ih =>
    obtain ⟨found, hfound, h⟩ := Except.bind_eq_ok_iff.mp h
    cases found with
    | none =>
      obtain ⟨before, row, after, sql, column, rfl, hbefore, hrest⟩ := ih h
      refine ⟨entry :: before, row, after, sql, column, rfl, ?_, hrest⟩
      exact List.forall_mem_cons.mpr ⟨isPassedOver_iff.mpr hfound, hbefore⟩
    | some name =>
      obtain ⟨column, hcolumn, h⟩ := Except.bind_eq_ok_iff.mp h
      obtain rfl := Option.some.inj (Except.ok.inj h)
      cases hsql : entry.sql with
      | none =>
        rw [hsql] at hfound
        cases hfound
      | some sql =>
        rw [hsql] at hfound
        exact ⟨[], entry, entries, sql, column, rfl, List.forall_mem_nil _, hsql, hfound, hcolumn,
          rfl⟩

end Index

section Column

variable {column : Column}
  (hordinals : schema.columns.map Column.ordinal = List.range schema.columns.length)
include hordinals

theorem ordinal_of_getElem? {i : Nat} (h : schema.columns[i]? = some column) :
    column.ordinal = i := by
  have hordinal := congrArg (·[i]?) hordinals
  simp only [List.getElem?_map, h, Option.map_some] at hordinal
  obtain ⟨hi, heq⟩ := List.getElem?_eq_some_iff.mp hordinal.symm
  rw [← heq, List.getElem_range]

/-- The column of a name stands where its ordinal says, and none of that name in front of it. -/
theorem isFirst_of_column (h : schema.column name = .ok column) :
    schema.columns[column.ordinal]? = some column ∧ Text.sameName column.name name ∧
      ∀ j other, j < column.ordinal → schema.columns[j]? = some other →
        Text.sameName other.name name = false := by
  unfold Schema.column at h
  split at h
  · next found hfind =>
    obtain rfl := Except.ok.inj h
    obtain ⟨hname, i, hi, heq, hfirst⟩ := List.find?_eq_some_iff_getElem.mp hfind
    have hfound : schema.columns[i]? = some found := List.getElem?_eq_some_iff.mpr ⟨hi, heq⟩
    obtain rfl : found.ordinal = i := ordinal_of_getElem? hordinals hfound
    refine ⟨hfound, hname, ?_⟩
    intro j other hj hother
    obtain ⟨hlt, rfl⟩ := List.getElem?_eq_some_iff.mp hother
    simpa using hfirst j hj
  · cases h

end Column

/-- Whatever the definitions of a table and its indexes say, what is read from them agrees with
itself. The index is the first that leads with a plain column, and without one there is none. -/
theorem ofPage_consistent {page : Page} (h : ofPage page table = .ok schema) :
    ∃ entries, page.schemaEntries = .ok entries ∧
      (∀ (i : Nat) (column : Column), schema.columns[i]? = some column → column.ordinal = i) ∧
      (∀ column ∈ schema.columns, column.isRowId → ∃ first others,
        Text.words column.declaredType.toList = first :: others ∧
          Text.sameLetters first "INTEGER".toList) ∧
      (schema.index = none → ∀ entry ∈ entriesOf "index" table entries, IsPassedOver entry) ∧
      ∀ index, schema.index = some index →
        (∃ column, schema.columns[index.ordinal]? = some column ∧
          Text.sameName column.name index.column ∧
          ∀ (j : Nat) (other : Column), j < index.ordinal →
            schema.columns[j]? = some other → Text.sameName other.name index.column = false) ∧
        ∃ before entry after sql, entriesOf "index" table entries = before ++ entry :: after ∧
          (∀ other ∈ before, IsPassedOver other) ∧ entry.sql = some sql ∧
          Definition.indexColumn? sql = .ok (some index.column) ∧
          index.name = entry.name ∧ index.rootPage = entry.rootPage := by
  obtain ⟨entries, hentries, h⟩ := Except.bind_eq_ok_iff.mp h
  obtain ⟨-, -, sql, -, -, -, -, hcolumns, hindex⟩ := exists_parts_of_ofEntries h
  have hordinals := Definition.map_ordinal_of_columns hcolumns
  refine ⟨entries, hentries, fun i column ↦ ordinal_of_getElem? hordinals, ?_, ?_, ?_⟩
  · intro column hmem hrow
    obtain ⟨list, -, hdeclared⟩ := Definition.columns_eq_ok_iff.mp hcolumns
    rw [← hdeclared] at hmem
    exact Definition.declaresInteger_iff.mp (Definition.declaresInteger_of_mem_columnsOf hmem hrow)
  · intro hnone
    rw [hnone] at hindex
    exact forall_isPassedOver_of_findIndex hindex
  · intro index hsome
    rw [hsome] at hindex
    obtain ⟨before, entry, after, sql, column, heq, hbefore, hsql, hplain, hcolumn, hparts⟩ :=
      exists_entry_of_findIndex hindex
    obtain ⟨hfound, hname, hfirst⟩ := isFirst_of_column hordinals hcolumn
    have hordinal : index.ordinal = column.ordinal := congrArg Index.ordinal hparts
    constructor
    · rw [hordinal]
      exact ⟨column, hfound, hname, hfirst⟩
    · exact ⟨before, entry, after, sql, heq, hbefore, hsql, hplain,
        congrArg Index.name hparts, congrArg Index.rootPage hparts⟩

def indexedEntries : List SchemaEntry :=
  [⟨"index", "unique", "t", 3, none⟩,
    ⟨"table", "t", "t", 2, some "create table t (a text, id integer, primary key (ID), b)"⟩,
    ⟨"index", "lower", "T", 4, some "create index lower on t (lower(a))"⟩,
    ⟨"index", "i", "t", 5, some "create index i on t (B desc)"⟩]

theorem ofPage_consistent_indexed :
    ∃ page : Page, page.schemaEntries = .ok indexedEntries ∧
      ofPage page "T" = .ok ⟨"t", [⟨"a", "text", 0, false⟩, ⟨"id", "integer", 1, true⟩,
        ⟨"b", "", 2, false⟩], 2, some ⟨"i", "B", 2, 5⟩⟩ ∧
      (∃ first others, Text.words "integer".toList = first :: others ∧
        Text.sameLetters first "INTEGER".toList) ∧
      ∃ before entry after sql, entriesOf "index" "T" indexedEntries = before ++ entry :: after ∧
        (∀ other ∈ before, IsPassedOver other) ∧ entry.sql = some sql ∧
        Definition.indexColumn? sql = .ok (some "B") ∧ "i" = entry.name ∧ 5 = entry.rootPage := by
  have hfile : Database.layout? 512 indexedEntries [] =
      some ((Database.layout? 512 indexedEntries []).getD []) := by decide +kernel
  obtain ⟨page, -, hentries⟩ := Database.exists_firstPage (by decide) hfile
  have hschema : ofPage page "T" = .ok ⟨"t", [⟨"a", "text", 0, false⟩, ⟨"id", "integer", 1, true⟩,
      ⟨"b", "", 2, false⟩], 2, some ⟨"i", "B", 2, 5⟩⟩ := by
    rw [ofPage, hentries, Except.ok_bind]
    decide +kernel
  obtain ⟨entries, hsame, -, hinteger, -, hindex⟩ := ofPage_consistent hschema
  obtain rfl := Except.ok.inj (hsame.symm.trans hentries)
  obtain ⟨-, hfirst⟩ := hindex _ rfl
  have hid := hinteger ⟨"id", "integer", 1, true⟩
    (List.mem_cons_of_mem _ List.mem_cons_self) rfl
  exact ⟨page, hentries, hschema, hid, hfirst⟩

end TableFile.Schema
