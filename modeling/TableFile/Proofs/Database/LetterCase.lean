import TableFile.Proofs.Database.Reach
import TableFile.Proofs.Text.Keyword

namespace TableFile

structure Predicate.SameButCase (predicate predicate' : Predicate) : Prop where
  column : Text.sameName predicate.column predicate'.column
  operator : predicate.operator = predicate'.operator
  value : predicate.value = predicate'.value

namespace Query

/-- Two queries that differ in nothing but the case of letters in their names, and of which both
count rows or neither does. -/
structure SameButCase (query query' : Query) : Prop where
  table : Text.sameName query.table query'.table
  columns : List.Forall₂ (fun name name' ↦ Text.sameName name name') query.columns query'.columns
  predicate : Option.Rel Predicate.SameButCase query.predicate query'.predicate
  countsRows : query.countsRows = query'.countsRows

def columnsNamed (query : Query) : List String :=
  query.columns ++ (query.predicate.map (·.column)).toList

/-- The same error, or one about the table or a column as each of the queries names it. -/
inductive SameFault (query query' : Query) : Error → Error → Prop
  | same (e : Error) : SameFault query query' e e
  | table : SameFault query query' (.unknownTable query.table) (.unknownTable query'.table)
  | column {name name' : String} (table : String)
      (h : (name, name') ∈ query.columnsNamed.zip query'.columnsNamed) :
      SameFault query query' (.unknownColumn name table) (.unknownColumn name' table)

end Query

section Lookup

variable {query query' : Query} {name name' : String}

theorem Schema.column_alike (schema : Schema) (h : Text.sameName name name')
    (hnamed : (name, name') ∈ query.columnsNamed.zip query'.columnsNamed) :
    Except.Alike (query.SameFault query') Eq (schema.column name) (schema.column name') := by
  rw [column, column]
  simp only [Text.sameName_congr h]
  cases schema.columns.find? fun column ↦ Text.sameName column.name name' with
  | some column => exact .ok rfl
  | none => exact .error (.column schema.table hnamed)

theorem Schema.ofEntries_alike (entries : List SchemaEntry)
    (h : Text.sameName query.table query'.table) :
    Except.Alike (query.SameFault query') Eq (ofEntries entries query.table)
      (ofEntries entries query'.table) := by
  rw [ofEntries, ofEntries]
  simp only [Text.sameName_congr h]
  refine (Except.Alike.refl .same _).bind fun rows rows' hrows ↦ ?_
  subst hrows
  obtain ⟨tables, indexes⟩ := rows
  cases tables with
  | nil => exact .error .table
  | cons entry others => exact .refl .same _

theorem Database.schema_alike (db : Database) (h : Text.sameName query.table query'.table) :
    Except.Alike (query.SameFault query') Eq (db.schema query.table) (db.schema query'.table) := by
  rw [schema, schema]
  refine (Except.Alike.refl .same db.firstPage).bind fun page page' hpage ↦ ?_
  subst hpage
  refine (Except.Alike.refl .same page.schemaEntries).bind fun entries entries' hentries ↦ ?_
  subst hentries
  exact Schema.ofEntries_alike entries h

end Lookup

namespace Query

variable {query query' : Query}

theorem SameButCase.forall₂_columns (h : query.SameButCase query') :
    List.Forall₂ (fun name name' ↦ Text.sameName name name' ∧
      (name, name') ∈ query.columnsNamed.zip query'.columnsNamed) query.columns query'.columns := by
  obtain ⟨hlength, hnames⟩ := List.forall₂_iff_zip.mp h.columns
  refine List.forall₂_iff_zip.mpr ⟨hlength, fun hmem ↦ ⟨hnames hmem, ?_⟩⟩
  rw [columnsNamed, columnsNamed, List.zip_append hlength]
  exact List.mem_append_left _ hmem

theorem SameButCase.predicate_cases (h : query.SameButCase query') :
    (query.predicate = none ∧ query'.predicate = none) ∨
      ∃ predicate predicate', query.predicate = some predicate ∧
        query'.predicate = some predicate' ∧ predicate.SameButCase predicate' := by
  have hpredicate := h.predicate
  generalize query.predicate = condition at hpredicate ⊢
  generalize query'.predicate = condition' at hpredicate ⊢
  cases hpredicate with
  | none => exact .inl ⟨rfl, rfl⟩
  | some hsame => exact .inr ⟨_, _, rfl, rfl, hsame⟩

theorem SameButCase.mem_zip_columnsNamed (h : query.SameButCase query')
    {predicate predicate' : Predicate} (hp : query.predicate = some predicate)
    (hp' : query'.predicate = some predicate') :
    (predicate.column, predicate'.column) ∈ query.columnsNamed.zip query'.columnsNamed := by
  rw [columnsNamed, columnsNamed, List.zip_append h.columns.length_eq, hp, hp']
  exact List.mem_append_right _ List.mem_cons_self

theorem SameButCase.star_iff (h : query.SameButCase query') :
    query.columns = ["*"] ↔ query'.columns = ["*"] := by
  have hstar {name : String} (hname : Text.sameLetters "*".toList name.toList) : name = "*" := by
    have hletters : ∀ c ∈ "*".toList, c.isAlpha = false := by simp
    exact String.toList_inj.mp (Text.eq_of_sameLetters hletters hname).symm
  have hcolumns := h.columns
  constructor
  · intro hq
    rw [hq, List.forall₂_cons_left_iff] at hcolumns
    obtain ⟨name, names, hname, hnames, heq⟩ := hcolumns
    rw [heq, List.forall₂_nil_left_iff.mp hnames, hstar hname]
  · intro hq
    rw [hq, List.forall₂_cons_right_iff] at hcolumns
    obtain ⟨name, names, hname, hnames, heq⟩ := hcolumns
    have hname' : Text.sameLetters "*".toList name.toList :=
      Text.sameLetters_iff.mpr (Text.sameLetters_iff.mp hname).symm
    rw [heq, List.forall₂_nil_right_iff.mp hnames, hstar hname']

theorem shownColumns_alike (schema : Schema) (h : query.SameButCase query') :
    Except.Alike (query.SameFault query') Eq (query.shownColumns schema)
      (query'.shownColumns schema) := by
  rw [shownColumns, shownColumns, h.countsRows]
  simp only [h.star_iff]
  split
  · exact .ok rfl
  · split
    · exact .ok rfl
    · exact .mapM (fun name name' hname ↦ schema.column_alike hname.1 hname.2) h.forall₂_columns

theorem keeps_congr {predicate predicate' : Predicate} (h : predicate.SameButCase predicate')
    (column : Column) : keeps (some ⟨predicate, column⟩) = keeps (some ⟨predicate', column⟩) := by
  funext record rowId
  rw [keeps, keeps, Predicate.holds, Predicate.holds, h.operator, h.value]

theorem filter_alike (schema : Schema) (h : query.SameButCase query') :
    Except.Alike (query.SameFault query') (fun f f' ↦ keeps f = keeps f') (query.filter schema)
      (query'.filter schema) := by
  rw [filter, filter]
  rcases h.predicate_cases with ⟨hp, hp'⟩ | ⟨predicate, predicate', hp, hp', hsame⟩
  · rw [hp, hp']
    exact .ok rfl
  · have hmem := h.mem_zip_columnsNamed hp hp'
    rw [hp, hp']
    refine (schema.column_alike hsame.column hmem).bind fun column column' hcolumn ↦ ?_
    subst hcolumn
    exact .ok (keeps_congr hsame column)

theorem rows_congr (shown : List Column) {f f' : Option Filter} (h : keeps f = keeps f')
    (cells : List (Except Error Cell)) : rows shown f cells = rows shown f' cells := by
  induction cells with
  | nil => rfl
  | cons cell cells ih =>
    match cell with
    | .error e => rfl
    | .ok (.tableLeaf rowId payload) => rw [rows, rows, row?, row?, h, ih]
    | .ok (.tableInterior ..) | .ok (.indexInterior ..) | .ok (.indexLeaf ..) => exact ih

theorem answer_alike (schema : Schema) (page : Page) (h : query.SameButCase query') :
    Except.Alike (query.SameFault query') Eq (query.answer schema page)
      (query'.answer schema page) := by
  have hpredicate : query.predicate.isNone = query'.predicate.isNone := by
    rcases h.predicate_cases with ⟨hp, hp'⟩ | ⟨predicate, predicate', hp, hp', -⟩
    · rw [hp, hp']
    · rw [hp, hp']
      rfl
  rw [answer, answer, h.countsRows, hpredicate]
  split
  · exact .error (.same _)
  split
  · exact .ok rfl
  · refine (shownColumns_alike schema h).bind fun shown shown' hshown ↦ ?_
    subst hshown
    refine (filter_alike schema h).bind fun f f' hf ↦ ?_
    rw [rows_congr shown hf]
    exact .refl .same _

end Query

namespace Database

variable {query query' : Query}

/-- Two queries that differ in nothing but the case of letters in their names are answered alike:
one has an answer just if the other has the same, and where they fail, the errors are the same or
are about the table or a column as each of the queries names it. -/
theorem answer_sameButCase (h : query.SameButCase query') (db : Database) :
    (∀ answer, db.answer query = .ok answer ↔ db.answer query' = .ok answer) ∧
    ∀ e, db.answer query = .error e →
      ∃ e', db.answer query' = .error e' ∧ query.SameFault query' e e' := by
  have halike : Except.Alike (query.SameFault query') Eq (db.answer query) (db.answer query') := by
    refine (db.schema_alike h.table).bind fun schema schema' hschema ↦ ?_
    subst hschema
    refine (Except.Alike.refl .same (db.page schema.rootPage)).bind fun page page' hpage ↦ ?_
    subst hpage
    exact Query.answer_alike schema page h
  exact ⟨halike.eq_ok_iff, fun e he ↦ halike.exists_error he⟩

theorem answer_sameButCase_sampleFile :
    Query.SameButCase ⟨"t", ["name", "id"], some ⟨"id", .equal, "5"⟩⟩
      ⟨"T", ["NAME", "Id"], some ⟨"iD", .equal, "5"⟩⟩ ∧
    answer ⟨sampleFile [7], 512⟩ ⟨"T", ["NAME", "Id"], some ⟨"iD", .equal, "5"⟩⟩ =
      .ok (.rows [["é", "5"]]) ∧
    Query.SameButCase ⟨"t", ["colour"], none⟩ ⟨"T", ["Colour"], none⟩ ∧
    ∃ e, answer ⟨sampleFile [7], 512⟩ ⟨"T", ["Colour"], none⟩ = .error e ∧
      Query.SameFault ⟨"t", ["colour"], none⟩ ⟨"T", ["Colour"], none⟩
        (.unknownColumn "colour" "t") e := by
  have hrows : Query.SameButCase ⟨"t", ["name", "id"], some ⟨"id", .equal, "5"⟩⟩
      ⟨"T", ["NAME", "Id"], some ⟨"iD", .equal, "5"⟩⟩ :=
    ⟨rfl, .cons rfl (.cons rfl .nil), .some ⟨rfl, rfl, rfl⟩, rfl⟩
  have hfault : Query.SameButCase ⟨"t", ["colour"], none⟩ ⟨"T", ["Colour"], none⟩ :=
    ⟨rfl, .cons rfl .nil, .none, rfl⟩
  have hanswer : answer ⟨sampleFile [7], 512⟩ ⟨"t", ["name", "id"], some ⟨"id", .equal, "5"⟩⟩ =
      .ok (.rows [["é", "5"]]) := by decide +kernel
  have herror : answer ⟨sampleFile [7], 512⟩ ⟨"t", ["colour"], none⟩ =
      .error (.unknownColumn "colour" "t") := by decide +kernel
  exact ⟨hrows, ((answer_sameButCase hrows _).1 _).mp hanswer, hfault,
    (answer_sameButCase hfault _).2 _ herror⟩

end Database

end TableFile
