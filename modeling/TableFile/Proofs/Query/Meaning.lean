import TableFile.Proofs.Query.Scan
import TableFile.Proofs.Text.Keyword

namespace TableFile

def Schema.column? (schema : Schema) (name : String) : Option Column :=
  schema.columns.find? fun column ↦ Text.sameName column.name name

theorem Schema.column_eq (schema : Schema) (name : String) :
    schema.column name =
      match schema.column? name with
      | some column => .ok column
      | none => .error (.unknownColumn name schema.table) := rfl

theorem Schema.mapM_column (schema : Schema) (names : List String) :
    names.mapM schema.column =
      match names.find? fun name ↦ (schema.column? name).isNone with
      | some name => .error (.unknownColumn name schema.table)
      | none => .ok (names.filterMap schema.column?) := by
  induction names with
  | nil => rfl
  | cons name names ih =>
    rw [List.mapM_cons, ih, Schema.column_eq]
    cases h : schema.column? name with
    | none => simp [h]
    | some column =>
      simp only [Except.ok_bind, List.find?_cons, h, Option.isNone_some, List.filterMap_cons]
      cases names.find? fun name ↦ (schema.column? name).isNone <;> rfl

theorem Schema.find?_name {columns : List Column} {column : Column}
    (hdistinct : columns.Pairwise fun column other ↦
      Text.sameName column.name other.name = false) (h : column ∈ columns) :
    columns.find? (fun other ↦ Text.sameName other.name column.name) = some column := by
  induction columns with
  | nil => cases h
  | cons first columns ih =>
    obtain ⟨hfirst, hdistinct⟩ := List.pairwise_cons.mp hdistinct
    rcases List.mem_cons.mp h with rfl | h
    · exact List.find?_cons_of_pos (Text.sameName_self _)
    · rw [List.find?_cons_of_neg (by simp [hfirst column h])]
      exact ih hdistinct h

/-- Where no two columns have one name, each is found by its own. -/
theorem Schema.mapM_column_name {schema : Schema} (hdistinct : schema.columns.Pairwise
      fun column other ↦ Text.sameName column.name other.name = false) :
    (schema.columns.map Column.name).mapM schema.column = .ok schema.columns := by
  rw [Except.mapM_eq_ok_iff, List.forall₂_map_left_iff, List.forall₂_same]
  intro column hcolumn
  rw [Schema.column, Schema.find?_name hdistinct hcolumn]

namespace Query

def shownNames (query : Query) : List String :=
  if query.columns = ["*"] then [] else query.columns

/-- The first column that is named but not there: one to show, or else that of the predicate. -/
def unknown? (query : Query) (schema : Schema) : Option String :=
  (query.shownNames ++ (query.predicate.map (·.column)).toList).find? fun name ↦
    (schema.column? name).isNone

def shown (query : Query) (schema : Schema) : List Column :=
  if query.columns = ["*"] then schema.columns else query.columns.filterMap schema.column?

def selects (query : Query) (schema : Schema) (row : Row) : Bool :=
  query.predicate.all fun predicate ↦
    (schema.column? predicate.column).any fun column ↦ predicate.holds (row.value column) = .ok true

def meaning (query : Query) (schema : Schema) (page : Page) : Except Error Answer :=
  if page.kind ≠ .tableLeaf then .error (.severalPages schema.table page.number page.kind.tag)
  else
    match query.unknown? schema, page.cells.findSome? (fault? query.predicate) with
    | some name, _ => .error (.unknownColumn name schema.table)
    | none, some e => .error e
    | none, none => .ok (.rows ((page.rows.filter (query.selects schema)).map
        (·.texts (query.shown schema))))

theorem shownColumns_eq {query : Query} (schema : Schema) (h : query.countsRows = false) :
    query.shownColumns schema =
      match query.shownNames.find? fun name ↦ (schema.column? name).isNone with
      | some name => .error (.unknownColumn name schema.table)
      | none => .ok (query.shown schema) := by
  simp only [shownColumns, h, Bool.false_eq_true, if_false, shownNames, shown]
  split
  · rfl
  · exact schema.mapM_column _

def filter? (query : Query) (schema : Schema) : Option Filter :=
  query.predicate.bind fun predicate ↦ (schema.column? predicate.column).map (⟨predicate, ·⟩)

theorem filter_eq (query : Query) (schema : Schema) :
    query.filter schema =
      match (query.predicate.map (·.column)).toList.find? fun name ↦
        (schema.column? name).isNone with
      | some name => .error (.unknownColumn name schema.table)
      | none => .ok (query.filter? schema) := by
  simp only [filter, filter?]
  cases query.predicate with
  | none => rfl
  | some predicate =>
    simp only [Schema.column_eq, Option.map_some, Option.toList_some, Option.bind_some]
    cases h : schema.column? predicate.column <;> simp [h]

theorem map_predicate_filter? {query : Query} {schema : Schema}
    (h : (query.predicate.map (·.column)).toList.find? (fun name ↦ (schema.column? name).isNone) =
      none) :
    (query.filter? schema).map Filter.predicate = query.predicate ∧
      ∀ row, ((query.filter? schema).all fun f ↦ f.selects row) = query.selects schema row := by
  unfold filter? selects
  cases hp : query.predicate with
  | none => simp
  | some predicate =>
    rw [hp] at h
    obtain ⟨column, hc⟩ : ∃ column, schema.column? predicate.column = some column := by
      simpa [Option.ne_none_iff_exists'] using h
    simp [hc, Filter.selects]

theorem answer_eq_scan {query : Query} {schema : Schema} {page : Page}
    (h : query.countsRows = false) (hkind : page.kind = .tableLeaf) :
    query.answer schema page = do
      let shown ← query.shownColumns schema
      let filter ← query.filter schema
      return .rows (← rows shown filter page.cells) := by
  simp [answer, h, hkind]

theorem answer_eq_of_countsRows {query : Query} (schema : Schema) (page : Page)
    (h : query.countsRows = false) : query.answer schema page = query.meaning schema page := by
  unfold meaning
  split
  · next hkind => simp [answer, hkind]
  · next hkind =>
    have hkind : page.kind = .tableLeaf := not_not.mp hkind
    rw [answer_eq_scan h hkind, shownColumns_eq schema h, filter_eq, unknown?, List.find?_append]
    cases query.shownNames.find? fun name ↦ (schema.column? name).isNone with
    | some name => rfl
    | none =>
      cases hp : (query.predicate.map (·.column)).toList.find? fun name ↦
          (schema.column? name).isNone with
      | some name => rfl
      | none =>
        obtain ⟨hpredicate, hselects⟩ := map_predicate_filter? hp
        simp only [Except.ok_bind, Option.none_or]
        rw [rows_eq _ _ fun cell hcell ↦ (Page.kind_of_mem_cells hcell).trans hkind, hpredicate]
        simp only [hselects, Page.rows]
        cases page.cells.findSome? (fault? query.predicate) <;> rfl

theorem length_shown {query : Query} {schema : Schema} (h : query.unknown? schema = none) :
    (query.shown schema).length =
      if query.columns = ["*"] then schema.columns.length else query.columns.length := by
  unfold unknown? shownNames at h
  unfold shown
  split
  · rfl
  · next hstar =>
    rw [if_neg hstar, List.find?_append, Option.or_eq_none_iff, List.find?_eq_none] at h
    rw [List.length_filterMap_eq_countP, List.countP_eq_length]
    intro name hname
    simpa [Option.isSome_iff_ne_none] using h.1 name hname

/-- Answering a query that shows rows gives what the query means, and each row has a text for each
column asked for. -/
theorem answer_eq_meaning (query : Query) (schema : Schema) (page : Page)
    (h : query.countsRows = false) :
    query.answer schema page = query.meaning schema page ∧
      ∀ rows, query.answer schema page = .ok (.rows rows) → ∀ row ∈ rows,
        row.length = if query.columns = ["*"] then schema.columns.length
          else query.columns.length := by
  refine ⟨answer_eq_of_countsRows schema page h, fun rows hrows row hrow ↦ ?_⟩
  rw [answer_eq_of_countsRows schema page h, meaning] at hrows
  split at hrows
  · cases hrows
  · split at hrows
    · cases hrows
    · cases hrows
    · next hunknown hfault =>
      obtain rfl := Answer.rows.inj (Except.ok.inj hrows)
      obtain ⟨r, -, rfl⟩ := List.mem_map.mp hrow
      rw [← length_shown hunknown, Row.texts, List.length_map]

end Query

def Page.twoRows : Page :=
  ⟨2, ⟨.tableLeaf, 0, 2, 12, 0, none⟩, [12, 16],
    [0x0D, 0, 0, 0, 2, 0, 12, 0, 0, 12, 0, 16, 2, 5, 2, 0, 2, 9, 2, 9]⟩

def Schema.oneColumn : Schema :=
  ⟨"t", [⟨"id", "INTEGER PRIMARY KEY", 0, true⟩], 2, none⟩

def Schema.twoColumns : Schema :=
  ⟨"t", [⟨"id", "INTEGER PRIMARY KEY", 0, true⟩, ⟨"*", "TEXT", 1, false⟩], 2, none⟩

namespace Query

theorem answer_eq_meaning_twoRows :
    countsRows ⟨"t", ["id", "Id"], some ⟨"ID", .equal, "+5"⟩⟩ = false ∧
    answer ⟨"t", ["id", "Id"], some ⟨"ID", .equal, "+5"⟩⟩ .oneColumn .twoRows =
      .ok (.rows [["5", "5"]]) :=
  ⟨by decide, (answer_eq_meaning _ _ _ (by decide)).1.trans (by decide +kernel)⟩

variable {table : String} {columns : List String}

theorem answer_eq_rows {predicate : Option Predicate} {schema : Schema} {page : Page}
    {shown : List Column} (hkind : page.kind = .tableLeaf) (hcolumns : columns ≠ [countAll])
    (hshown : shownColumns ⟨table, columns, predicate⟩ schema = .ok shown) :
    answer ⟨table, columns, predicate⟩ schema page = do
      let filter ← filter ⟨table, columns, predicate⟩ schema
      return .rows (← rows shown filter page.cells) := by
  rw [answer_eq_scan (by simpa [countsRows] using hcolumns) hkind, hshown, Except.ok_bind]

theorem answer_countAll_eq (columns : List String) {predicate : Predicate} {schema : Schema}
    {page : Page} (hkind : page.kind = .tableLeaf) :
    answer ⟨table, [countAll], some predicate⟩ schema page = do
      let filter ← filter ⟨table, columns, some predicate⟩ schema
      return .count (← rows [] filter page.cells).length := by
  simp only [answer, hkind, ne_eq, not_true_eq_false, if_false, countsRows, decide_true,
    Option.isNone_some, Bool.and_false, Bool.false_eq_true, shownColumns, if_true, Except.ok_bind]
  rfl

/-- Counting agrees with showing: it gives the number of rows shown, and with a predicate it fails
alike. -/
theorem answer_countAll {predicate : Option Predicate} {schema : Schema} {page : Page}
    {shown : List Column} (hcolumns : columns ≠ [countAll])
    (hshown : shownColumns ⟨table, columns, predicate⟩ schema = .ok shown) :
    (∀ rows, answer ⟨table, columns, predicate⟩ schema page = .ok (.rows rows) →
      answer ⟨table, [countAll], predicate⟩ schema page = .ok (.count rows.length)) ∧
    (predicate.isSome → ∀ e, answer ⟨table, columns, predicate⟩ schema page = .error e ↔
      answer ⟨table, [countAll], predicate⟩ schema page = .error e) := by
  by_cases hkind : page.kind = .tableLeaf
  · have hcells : ∀ cell, .ok cell ∈ page.cells → cell.kind = .tableLeaf :=
      fun cell hcell ↦ (Page.kind_of_mem_cells hcell).trans hkind
    rw [answer_eq_rows hkind hcolumns hshown]
    cases predicate with
    | none =>
      rw [show filter ⟨table, columns, none⟩ schema = .ok none from rfl, Except.ok_bind]
      refine ⟨fun texts h ↦ ?_, fun h ↦ absurd h (by simp)⟩
      obtain ⟨texts', hrows, h⟩ := Except.bind_eq_ok_iff.mp h
      obtain rfl := Answer.rows.inj (Except.ok.inj h)
      rw [length_rows_none hcells hrows]
      simp [answer, hkind, countsRows, Page.cells, Page.cellCount]
    | some predicate =>
      rw [answer_countAll_eq columns hkind]
      cases filter ⟨table, columns, some predicate⟩ schema with
      | error e => simp
      | ok f =>
        have hlength := map_length_rows shown [] f hcells
        simp only [Except.ok_bind]
        cases hrows : rows shown f page.cells <;> cases hcount : rows [] f page.cells <;>
          simp_all [Except.map]
  · simp [answer, hkind]

theorem answer_countAll_twoRows :
    ["*"] ≠ [countAll] ∧
    shownColumns ⟨"t", ["*"], some ⟨"id", .equal, "1"⟩⟩ .oneColumn = .ok Schema.oneColumn.columns ∧
    answer ⟨"t", ["*"], some ⟨"id", .equal, "1"⟩⟩ .oneColumn .twoRows = .ok (.rows [["1"]]) ∧
    answer ⟨"t", [countAll], some ⟨"id", .equal, "1"⟩⟩ .oneColumn .twoRows = .ok (.count 1) :=
  have h : answer ⟨"t", ["*"], some ⟨"id", .equal, "1"⟩⟩ .oneColumn .twoRows =
    .ok (.rows [["1"]]) := by decide +kernel
  ⟨by decide, rfl, h, (answer_countAll (by decide) rfl).1 _ h⟩

theorem exists_kept_of_answer_star {predicate : Option Predicate} {schema : Schema} {page : Page}
    {result : Answer} (h : answer ⟨table, ["*"], predicate⟩ schema page = .ok result) :
    ∃ kept : List Row, kept.Sublist page.rows ∧
      result = .rows (kept.map (·.texts schema.columns)) := by
  rw [answer_eq_of_countsRows schema page (by rfl), meaning] at h
  split at h
  · cases h
  · split at h
    · cases h
    · cases h
    · obtain rfl := Except.ok.inj h
      exact ⟨_, List.filter_sublist, rfl⟩

/-- A star stands for the names of all columns, where no two of them are the same. -/
theorem answer_star {schema : Schema} (hdistinct : schema.columns.Pairwise fun column other ↦
      Text.sameName column.name other.name = false)
    (hcount : schema.columns.map Column.name ≠ [countAll]) (table : String)
    (predicate : Option Predicate) (page : Page) :
    answer ⟨table, ["*"], predicate⟩ schema page =
      answer ⟨table, schema.columns.map Column.name, predicate⟩ schema page ∧
    ∀ result, answer ⟨table, ["*"], predicate⟩ schema page = .ok result →
      ∃ kept : List Row, kept.Sublist page.rows ∧
        result = .rows (kept.map (·.texts schema.columns)) := by
  refine ⟨?_, fun result h ↦ exists_kept_of_answer_star h⟩
  by_cases hkind : page.kind = .tableLeaf
  · have hnames := Schema.mapM_column_name hdistinct
    have hshown : shownColumns ⟨table, schema.columns.map Column.name, predicate⟩ schema =
        .ok schema.columns := by
      simp only [shownColumns, countsRows, decide_eq_true_eq, if_neg hcount, hnames, ite_self]
    rw [answer_eq_rows hkind (by decide) rfl, answer_eq_rows hkind hcount hshown]
    rfl
  · simp [answer, hkind]

theorem answer_star_twoRows :
    (Schema.twoColumns.columns.Pairwise fun column other ↦
      Text.sameName column.name other.name = false) ∧
    Schema.twoColumns.columns.map Column.name ≠ [countAll] ∧
    answer ⟨"t", ["*"], some ⟨"ID", .equal, "+5"⟩⟩ .twoColumns .twoRows =
      .ok (.rows [["5", ""]]) ∧
    ∃ kept : List Row, kept.Sublist Page.twoRows.rows ∧
      Answer.rows [["5", ""]] = .rows (kept.map (·.texts Schema.twoColumns.columns)) := by
  have hdistinct : Schema.twoColumns.columns.Pairwise fun column other ↦
      Text.sameName column.name other.name = false := by decide
  have hcount : Schema.twoColumns.columns.map Column.name ≠ [countAll] := by decide
  have hnames : answer ⟨"t", ["id", "*"], some ⟨"ID", .equal, "+5"⟩⟩ .twoColumns .twoRows =
      .ok (.rows [["5", ""]]) := by
    decide +kernel
  obtain ⟨heq, hkept⟩ := answer_star hdistinct hcount "t" (some ⟨"ID", .equal, "+5"⟩) .twoRows
  have hstar := heq.trans hnames
  exact ⟨hdistinct, hcount, hstar, hkept _ hstar⟩

end Query

end TableFile
