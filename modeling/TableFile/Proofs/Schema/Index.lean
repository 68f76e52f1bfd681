import TableFile.Proofs.Definition.Columns
import TableFile.Proofs.Definition.IndexColumn
import TableFile.Proofs.Definition.IndexKey
import TableFile.Proofs.Schema.Entries

namespace TableFile

namespace Schema

open Definition (quotedIndex indexText isPlainName KeyRest IsBalanced)

variable {schema : Schema} {columns : List Column} {entries : List SchemaEntry}
  {entry index : SchemaEntry} {table name sql : String}

theorem findIndex_eq_ok (hfirst : entries.find? (·.sql.isSome) = some index)
    (hsql : index.sql = some sql) (hname : Definition.indexColumn? sql = .ok (some name))
    {column : Column} (hcolumn : schema.column name = .ok column) :
    schema.findIndex entries = .ok (some ⟨index.name, name, column.ordinal, index.rootPage⟩) := by
  induction entries with
  | nil => cases hfirst
  | cons entry entries ih =>
    cases hentry : entry.sql with
    | none =>
      rw [List.find?_cons_of_neg (by simp [hentry])] at hfirst
      rw [findIndex, hentry]
      exact ih hfirst
    | some sql' =>
      rw [List.find?_cons_of_pos (by simp [hentry])] at hfirst
      obtain rfl := Option.some.inj hfirst
      rw [findIndex, hsql]
      simp only [Option.elim_some, hname, Except.ok_bind, hcolumn]
      rfl

theorem exists_column {column : Column} (hmem : column ∈ schema.columns)
    (hordinals : schema.columns.map Column.ordinal = List.range schema.columns.length) :
    ∃ found, schema.column column.name = .ok found ∧
      schema.columns.findIdx? (fun other ↦ Text.sameName other.name column.name) =
        some found.ordinal := by
  have hsame := Text.sameName_self column.name
  cases hfind : schema.columns.find? fun other ↦ Text.sameName other.name column.name with
  | none => exact absurd hsame (List.find?_eq_none.mp hfind column hmem)
  | some found =>
    obtain ⟨hfound, i, hi, heq, hfirst⟩ := List.find?_eq_some_iff_getElem.mp hfind
    have hordinal : found.ordinal = i := by
      have hith := List.getElem_of_eq hordinals (i := i) (by simpa using hi)
      rwa [List.getElem_map, List.getElem_range, heq] at hith
    refine ⟨found, by rw [Schema.column, hfind], ?_⟩
    rw [List.findIdx?_eq_some_iff_getElem, hordinal]
    exact ⟨hi, heq ▸ hfound, fun j hj ↦ by simpa using hfirst j hj⟩

theorem ofEntries_eq_ok_index (hkinds : ∀ entry ∈ entries, Text.sameName entry.table table →
      entry.kind = "table" ∨ entry.kind = "index")
    (htable : (entriesOf "table" table entries).head? = some entry) (hsql : entry.sql = some sql)
    (hcolumns : Definition.columns sql = .ok columns) {found : Option Index}
    (hindex : findIndex ⟨entry.name, columns, entry.rootPage, none⟩
      (entriesOf "index" table entries) = .ok found) :
    ofEntries entries table = .ok ⟨entry.name, columns, entry.rootPage, found⟩ := by
  obtain ⟨others, htables⟩ := List.head?_eq_some_iff.mp htable
  rw [ofEntries, partition_filter hkinds, htables]
  simp only [Except.ok_bind, hsql, hcolumns, hindex]
  rfl

/-- The first index with a definition counts if that gives the name of a column, and it is then on
the first column of that name. -/
theorem exists_ofPage_index {page : Page} (hentries : page.schemaEntries = .ok entries)
    (hkinds : ∀ entry ∈ entries, Text.sameName entry.table table →
      entry.kind = "table" ∨ entry.kind = "index")
    (htable : (entriesOf "table" table entries).head? = some entry) (hsql : entry.sql = some sql)
    (hcolumns : Definition.columns sql = .ok columns) {column : Column} (hmem : column ∈ columns)
    (hfirst : (entriesOf "index" table entries).find? (·.sql.isSome) = some index)
    {definition : String} (hdefinition : index.sql = some definition)
    (hname : Definition.indexColumn? definition = .ok (some column.name)) :
    ∃ ordinal, columns.findIdx? (fun other ↦ Text.sameName other.name column.name) = some ordinal ∧
      ofPage page table = .ok ⟨entry.name, columns, entry.rootPage,
        some ⟨index.name, column.name, ordinal, index.rootPage⟩⟩ := by
  obtain ⟨found, hfound, hordinal⟩ : ∃ found,
      Schema.column ⟨entry.name, columns, entry.rootPage, none⟩ column.name = .ok found ∧
        columns.findIdx? (fun other ↦ Text.sameName other.name column.name) = some found.ordinal :=
    exists_column hmem (Definition.map_ordinal_of_columns hcolumns)
  refine ⟨found.ordinal, hordinal, ?_⟩
  rw [ofPage, hentries, Except.ok_bind]
  exact ofEntries_eq_ok_index hkinds htable hsql hcolumns
    (findIndex_eq_ok hfirst hdefinition hname hfound)

/-- A definition with all names in quotes puts the index of a table on one of its columns, if the
parentheses in the name of that column balance, and otherwise not under that name. -/
theorem ofPage_quotedIndex {page : Page} (hentries : page.schemaEntries = .ok entries)
    (hkinds : ∀ entry ∈ entries, Text.sameName entry.table table →
      entry.kind = "table" ∨ entry.kind = "index")
    (htable : (entriesOf "table" table entries).head? = some entry) (hsql : entry.sql = some sql)
    (hcolumns : Definition.columns sql = .ok columns) {column : Column} (hmem : column ∈ columns)
    (hne : column.name ≠ "") (hquote : '"' ∉ column.name.toList)
    (hfirst : (entriesOf "index" table entries).find? (·.sql.isSome) = some index)
    {i u : String} (hi : '(' ∉ i.toList) (hu : '(' ∉ u.toList)
    (hdefinition : index.sql = some (quotedIndex i u column.name)) :
    (Definition.indexColumn? (quotedIndex i u column.name) = .ok (some column.name) ↔
      IsBalanced column.name.toList) ∧
    (IsBalanced column.name.toList → ∃ ordinal,
      columns.findIdx? (fun other ↦ Text.sameName other.name column.name) = some ordinal ∧
      ofPage page table = .ok ⟨entry.name, columns, entry.rootPage,
        some ⟨index.name, column.name, ordinal, index.rootPage⟩⟩) := by
  have hiff := Definition.indexColumn?_quotedIndex_iff hne hquote hi hu
  refine ⟨hiff, fun hbalanced ↦ ?_⟩
  exact exists_ofPage_index hentries hkinds htable hsql hcolumns hmem hfirst hdefinition
    (hiff.mpr hbalanced)

def quotedEntries (column : String) : List SchemaEntry :=
  [⟨"table", "u", "u", 2, some ("CREATE TABLE \"u\" (\"" ++ column ++ "\" INTEGER)")⟩,
    ⟨"index", "i", "u", 3, some (quotedIndex "i" "u" column)⟩]

theorem ofPage_quotedIndex_balanced :
    IsBalanced "a (b), c".toList ∧
    ∃ page : Page, page.schemaEntries = .ok (quotedEntries "a (b), c") ∧
      ofPage page "U" = .ok ⟨"u", [⟨"a (b), c", "INTEGER", 0, false⟩], 2,
        some ⟨"i", "a (b), c", 0, 3⟩⟩ := by
  have hbalanced : IsBalanced "a (b), c".toList := by decide +kernel
  have hfile : Database.layout? 512 (quotedEntries "a (b), c") [] =
      some ((Database.layout? 512 (quotedEntries "a (b), c") []).getD []) := by decide +kernel
  obtain ⟨page, -, hentries⟩ := Database.exists_firstPage (by decide) hfile
  have hkinds : ∀ entry ∈ quotedEntries "a (b), c", Text.sameName entry.table "U" →
      entry.kind = "table" ∨ entry.kind = "index" := by decide +kernel
  have htable : (entriesOf "table" "U" (quotedEntries "a (b), c")).head? =
      some ⟨"table", "u", "u", 2, some "CREATE TABLE \"u\" (\"a (b), c\" INTEGER)"⟩ := by
    decide +kernel
  have hcolumns : Definition.columns "CREATE TABLE \"u\" (\"a (b), c\" INTEGER)" =
      .ok [⟨"a (b), c", "INTEGER", 0, false⟩] := by decide +kernel
  have hfirst : (entriesOf "index" "U" (quotedEntries "a (b), c")).find? (·.sql.isSome) =
      some ⟨"index", "i", "u", 3, some (quotedIndex "i" "u" "a (b), c")⟩ := by decide +kernel
  obtain ⟨-, hindex⟩ := ofPage_quotedIndex hentries hkinds htable rfl hcolumns
    List.mem_cons_self (by decide) (by decide) hfirst (by decide) (by decide) rfl
  obtain ⟨ordinal, hordinal, hschema⟩ := hindex hbalanced
  have hzero : [(⟨"a (b), c", "INTEGER", 0, false⟩ : Column)].findIdx?
      (fun other ↦ Text.sameName other.name "a (b), c") = some 0 := by decide +kernel
  obtain rfl := Option.some.inj (hordinal.symm.trans hzero)
  exact ⟨hbalanced, page, hentries, hschema⟩

/-- The parenthesis that the name opens is not closed within quotes, and not by the one that closes
the list. -/
theorem ofPage_quotedIndex_unclosed :
    Definition.columns "CREATE TABLE \"u\" (\"a(b\" INTEGER)" =
      .ok [⟨"a(b", "INTEGER", 0, false⟩] ∧
    Definition.indexColumn? "CREATE INDEX \"i\" ON \"u\" (\"a(b\")" =
      .error (.badDefinition (.noColumnList "CREATE INDEX \"i\" ON \"u\" (\"a(b\")")) ∧
    ∃ page : Page, page.schemaEntries = .ok (quotedEntries "a(b") ∧
      ofPage page "u" =
        .error (.badDefinition (.noColumnList "CREATE INDEX \"i\" ON \"u\" (\"a(b\")")) := by
  refine ⟨by decide +kernel, by decide +kernel, ?_⟩
  have hfile : Database.layout? 512 (quotedEntries "a(b") [] =
      some ((Database.layout? 512 (quotedEntries "a(b") []).getD []) := by decide +kernel
  obtain ⟨page, -, hentries⟩ := Database.exists_firstPage (by decide) hfile
  refine ⟨page, hentries, ?_⟩
  rw [ofPage, hentries, Except.ok_bind]
  decide +kernel

/-- A definition whose leading key is a plain column puts the index of a table on the first column
of that name, whatever follows in its list and behind that. -/
theorem ofPage_plainIndex {page : Page} (hentries : page.schemaEntries = .ok entries)
    (hkinds : ∀ entry ∈ entries, Text.sameName entry.table table →
      entry.kind = "table" ∨ entry.kind = "index")
    (htable : (entriesOf "table" table entries).head? = some entry) (hsql : entry.sql = some sql)
    (hcolumns : Definition.columns sql = .ok columns) {column : Column} (hmem : column ∈ columns)
    (hname : isPlainName column.name.toList) (hne : column.name ≠ "")
    (hfirst : (entriesOf "index" table entries).find? (·.sql.isSome) = some index)
    {front before rest tail : List Char} (hfront : '(' ∉ front) (hbefore : Text.IsBlanks before)
    (hrest : KeyRest rest) (hbalanced : IsBalanced rest)
    (hdefinition : index.sql =
      some (indexText front (before ++ (column.name.toList ++ rest)) tail)) :
    Definition.indexColumn? (indexText front (before ++ (column.name.toList ++ rest)) tail) =
      .ok (some column.name) ∧
    ∃ ordinal, columns.findIdx? (fun other ↦ Text.sameName other.name column.name) = some ordinal ∧
      ofPage page table = .ok ⟨entry.name, columns, entry.rootPage,
        some ⟨index.name, column.name, ordinal, index.rootPage⟩⟩ := by
  have hnil : column.name.toList ≠ [] := fun hnil ↦ hne (String.toList_eq_nil_iff.mp hnil)
  have hkey := Definition.indexColumn?_indexText hfront hbefore hname hnil hrest hbalanced tail
  rw [String.ofList_toList] at hkey
  refine ⟨hkey, ?_⟩
  exact exists_ofPage_index hentries hkinds htable hsql hcolumns hmem hfirst hdefinition hkey

def plainEntries : List SchemaEntry :=
  [⟨"table", "t", "t", 2, some "CREATE TABLE t (b TEXT, B INTEGER)"⟩,
    ⟨"index", "auto", "t", 3, none⟩,
    ⟨"index", "i", "t", 4, some "CREATE INDEX i ON t ( B collate nocase, lower(b)) WHERE (b > 1"⟩]

theorem ofPage_plainIndex_collated :
    Definition.indexColumn? "CREATE INDEX i ON t ( B collate nocase, lower(b)) WHERE (b > 1" =
      .ok (some "B") ∧
    ∃ page : Page, page.schemaEntries = .ok plainEntries ∧
      ofPage page "T" = .ok ⟨"t", [⟨"b", "TEXT", 0, false⟩, ⟨"B", "INTEGER", 1, false⟩], 2,
        some ⟨"i", "B", 0, 4⟩⟩ := by
  have hfile : Database.layout? 512 plainEntries [] =
      some ((Database.layout? 512 plainEntries []).getD []) := by decide +kernel
  obtain ⟨page, -, hentries⟩ := Database.exists_firstPage (by decide) hfile
  have hkinds : ∀ entry ∈ plainEntries, Text.sameName entry.table "T" →
      entry.kind = "table" ∨ entry.kind = "index" := by decide +kernel
  have htable : (entriesOf "table" "T" plainEntries).head? =
      some ⟨"table", "t", "t", 2, some "CREATE TABLE t (b TEXT, B INTEGER)"⟩ := by decide +kernel
  have hcolumns : Definition.columns "CREATE TABLE t (b TEXT, B INTEGER)" =
      .ok [⟨"b", "TEXT", 0, false⟩, ⟨"B", "INTEGER", 1, false⟩] := by decide +kernel
  have hmem : (⟨"B", "INTEGER", 1, false⟩ : Column) ∈
      [⟨"b", "TEXT", 0, false⟩, ⟨"B", "INTEGER", 1, false⟩] := by simp
  have hfirst : (entriesOf "index" "T" plainEntries).find? (·.sql.isSome) =
      some ⟨"index", "i", "t", 4,
        some "CREATE INDEX i ON t ( B collate nocase, lower(b)) WHERE (b > 1"⟩ := by decide +kernel
  have hspace : Text.IsBlanks [' '] := .singleton rfl
  have hword : Text.sameLetters "COLLATE".toList "collate".toList := rfl
  have hrest : KeyRest ([' '] ++ ("collate".toList ++ " nocase, lower(b)".toList)) :=
    .ordered ⟨by simp, hspace⟩ (by simp) hword (by simp [Text.isBlank])
  have hdefinition : some "CREATE INDEX i ON t ( B collate nocase, lower(b)) WHERE (b > 1" =
      some (indexText "CREATE INDEX i ON t ".toList ([' '] ++ ("B".toList ++
        ([' '] ++ ("collate".toList ++ " nocase, lower(b)".toList)))) " WHERE (b > 1".toList) := rfl
  obtain ⟨hkey, ordinal, hordinal, hschema⟩ := ofPage_plainIndex hentries hkinds htable rfl hcolumns
    hmem (by decide) (by decide) hfirst (by decide) hspace hrest (by decide +kernel) hdefinition
  have hzero : [(⟨"b", "TEXT", 0, false⟩ : Column), ⟨"B", "INTEGER", 1, false⟩].findIdx?
      (fun other ↦ Text.sameName other.name "B") = some 0 := by decide +kernel
  obtain rfl := Option.some.inj (hordinal.symm.trans hzero)
  exact ⟨hkey, page, hentries, hschema⟩

end Schema

end TableFile
