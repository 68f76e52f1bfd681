import TableFile.Proofs.Definition.Key

namespace TableFile.Definition

open Text

inductive Clause where
  | column (name declaredType : String)
  | key (first : String) (others : List String)
  | constraint
deriving DecidableEq

namespace Clause

def column? : Clause → Option (String × String)
  | column name declaredType => some (name, declaredType)
  | key _ _ | constraint => none

def key? : Clause → Option (List String)
  | key first others => some (first :: others)
  | column _ _ | constraint => none

/-- Neither the type of a column nor a constraint other than the key mentions a primary key. -/
inductive Spells : Clause → List Char → Prop
  | column {before name rest text : List Char} (hbefore : IsBlanks before)
      (htext : BeginsWithName name rest text)
      (hname : startsQuoted text ∨
        ∀ keyword ∈ ["CONSTRAINT", "CHECK", "UNIQUE", "FOREIGN", "PRIMARY"],
          sameLetters keyword.toList name = false)
      (hclosed : Closed false rest)
      (hkey : occursIn "PRIMARY KEY".toList (canonical rest) = false) :
      Spells (.column (.ofList name) (.ofList (trim rest))) (before ++ text)
  | key {before start gap rest : List Char} {first : String} {others : List String}
      {texts : List (List Char)} (hbefore : IsBlanks before) (hstart : KeyWords start)
      (hgap : IsBlanks gap) (hkeys : List.Forall₂ KeySpelled (first :: others) texts)
      (hclosed : Closed false rest) :
      Spells (.key first others)
        (before ++ (start ++ (gap ++ '(' :: ([','].intercalate texts ++ ')' :: rest))))
  | constraint {before text : List Char} (hbefore : IsBlanks before)
      (htext : ConstraintSpelled text) (hclosed : Closed false text)
      (hkey : ¬Mentions "PRIMARY".toList text) : Spells .constraint (before ++ text)

structure IsSaid (clause : Clause) (item : List Char) : Prop where
  ne_nil : item ≠ []
  declared?_eq : declared? item = clause.column?
  not_flagged : isConstraint item = false →
    occursIn "PRIMARY KEY".toList (canonical (cutName item).2) = false
  key?_eq : (if isConstraint item then primaryKey? item else none) =
    clause.key?.map (·.map String.toList)

theorem IsSaid.of_isConstraint {clause : Clause} {item : List Char} (h : isConstraint item)
    (hcolumn : clause.column? = none)
    (hkey : primaryKey? item = clause.key?.map (·.map String.toList)) : clause.IsSaid item := by
  refine ⟨ne_nil_of_isConstraint h, ?_, ?_, ?_⟩
  · rw [declared?, if_pos h, hcolumn]
  · intro hnot
    rw [h] at hnot
    cases hnot
  · rw [if_pos h, hkey]

namespace Spells

variable {clause : Clause} {text : List Char}

theorem closed (h : clause.Spells text) : Closed false text := by
  cases h with
  | column hbefore htext _ hclosed _ =>
    exact (closed_of_isBlanks hbefore).append (htext.closed hclosed)
  | @key before start gap rest _ _ texts hbefore hstart hgap hkeys hclosed =>
    have hlist : Closed false ('(' :: ([','].intercalate texts ++ [')'])) := by
      refine .parenthesized (closed_intercalate fun text htext ↦ ?_)
      obtain ⟨-, hclosing, hclosed⟩ := forall_of_keys hkeys text htext
      exact hclosed.nested_of_not_mem hclosing
    have hrest := ((closed_of_isBlanks hgap).append hlist).append hclosed
    simp only [List.append_assoc, List.cons_append, List.nil_append] at hrest
    exact (closed_of_isBlanks hbefore).append (hstart.closed.append hrest)
  | constraint hbefore _ hclosed _ => exact (closed_of_isBlanks hbefore).append hclosed

theorem isSaid (h : clause.Spells text) : clause.IsSaid (trim text) := by
  cases h with
  | @column before name rest text hbefore htext hname hclosed hkey =>
    have hitem := htext.trim_append hbefore
    have hconstraint : isConstraint (trim (before ++ text)) = false := by
      rw [isConstraint_trim_blanks_append hbefore, htext.isConstraint_eq_false hname]
    refine ⟨hitem.ne_nil, ?_, fun _ ↦ ?_, ?_⟩
    · rw [declared?, hconstraint, hitem.cutName_eq, trim_trimEnd]
      rfl
    · rw [hitem.cutName_eq, trim_trimEnd, canonical, words_trim]
      exact hkey
    · rw [hconstraint]
      rfl
  | @key before start gap rest first others texts hbefore hstart hgap hkeys hclosed =>
    have hparenthesis : IsTrimmed [')'] := ⟨by simp [isBlank], by simp [isBlank]⟩
    have htrim := (hstart.isTrimmed.append hstart.ne_nil (gap ++ '(' :: [','].intercalate texts)
      hparenthesis (List.cons_ne_nil _ _)).trim_append
        (List.append_ne_nil_of_left_ne_nil hstart.ne_nil _) hbefore rest
    simp only [List.append_assoc, List.cons_append, List.nil_append] at htrim
    rw [htrim]
    exact .of_isConstraint (hstart.isConstraint_append _) rfl
      (primaryKey?_of_keys hstart hgap hkeys (List.cons_ne_nil _ _) _)
  | @constraint before text hbefore htext hclosed hkey =>
    have hconstraint : isConstraint (trim (before ++ text)) := by
      rw [isConstraint_trim_blanks_append hbefore, htext.isConstraint]
    have hnone : primaryKey? (trim (before ++ text)) = none := by
      have hsearch : fromWord? "PRIMARY".toList (trim text) = none :=
        (fromWord?_eq_none_iff (by simp)).mpr fun hmentions ↦
          hkey (hmentions.of_infix (isInfix_trim text))
      rw [trim_blanks_append hbefore, primaryKey?, hsearch]
      rfl
    exact .of_isConstraint hconstraint rfl hnone

end Spells

end Clause

section Flags

variable {key : List (List Char)} {columns : List Column} {found : Column} {i : Nat}

theorem findIdx?_applyKey {p : Column → Bool} (hp : ∀ column, p column.withKey = p column) :
    (applyKey key columns).findIdx? p = columns.findIdx? p := by
  have hmap := congrArg (List.findIdx? id) (map_applyKey hp key columns)
  rw [List.findIdx?_map, List.findIdx?_map] at hmap
  exact hmap

/-- Where no column stands for the row id by itself, only the one that the key names can. -/
theorem isRowId_applyKey_iff (hcolumns : ∀ column ∈ columns, column.isRowId = false)
    (h : (applyKey key columns)[i]? = some found) :
    found.isRowId ↔ keyOrdinal? key columns = some i ∧
      declaresInteger found.declaredType.toList := by
  rw [getElem?_applyKey, Option.map_eq_some_iff] at h
  obtain ⟨column, hcolumn, hfound⟩ := h
  have hflag := hcolumns column (List.mem_of_getElem? hcolumn)
  split at hfound
  · next hordinal =>
    subst hfound
    rw [hordinal, Column.withKey, hflag, Bool.false_or, and_iff_right rfl]
  · next hordinal =>
    subst hfound
    rw [hflag]
    exact iff_of_false Bool.false_ne_true fun hnot ↦ hordinal hnot.1

theorem keyOrdinal?_cons_iff {first : String} {others : List String} :
    keyOrdinal? ((first :: others).map String.toList) columns = some i ↔
      others = [] ∧ columns.findIdx? (fun column ↦ sameName column.name first) = some i := by
  cases others with
  | nil => exact (and_iff_right rfl).symm
  | cons => exact iff_of_false nofun nofun

end Flags

section Clauses

variable {clauses before after : List Clause} {texts : List (List Char)} {said : List (List Char)}

theorem filterMap_declared?_of_isSaid (h : List.Forall₂ Clause.IsSaid clauses said) :
    said.filterMap declared? = clauses.filterMap Clause.column? := by
  induction h with
  | nil => rfl
  | cons hitem _ ih => rw [List.filterMap_cons, List.filterMap_cons, hitem.declared?_eq, ih]

theorem findSome?_of_isSaid (h : List.Forall₂ Clause.IsSaid clauses said) :
    (said.filter isConstraint).findSome? primaryKey? =
      (clauses.findSome? Clause.key?).map (·.map String.toList) := by
  induction h with
  | nil => rfl
  | @cons clause item clauses said hitem _ ih =>
    have hkey := hitem.key?_eq
    rw [List.findSome?_cons]
    by_cases hconstraint : isConstraint item
    · rw [if_pos hconstraint] at hkey
      rw [List.filter_cons_of_pos hconstraint, List.findSome?_cons, hkey, ih]
      cases clause.key? <;> rfl
    · rw [if_neg hconstraint, eq_comm, Option.map_eq_none_iff] at hkey
      rw [List.filter_cons_of_neg hconstraint, ih, hkey]

theorem exists_isSaid_of_mem {item : List Char} (h : List.Forall₂ Clause.IsSaid clauses said)
    (hitem : item ∈ said) : ∃ clause : Clause, clause.IsSaid item := by
  induction h with
  | nil => cases hitem
  | cons hfirst _ ih =>
    rcases List.mem_cons.mp hitem with rfl | hrest
    · exact ⟨_, hfirst⟩
    · exact ih hrest

theorem forall_not_flagged (h : List.Forall₂ Clause.IsSaid clauses said) :
    ∀ found ∈ (said.filter (!isConstraint ·)).mapIdx (fun i item ↦ column item i),
      found.isRowId = false := by
  intro found hfound
  obtain ⟨i, hi, rfl⟩ := List.mem_mapIdx.mp hfound
  have hmem := List.getElem_mem hi
  rw [List.mem_filter, Bool.not_eq_eq_eq_not, Bool.not_true] at hmem
  obtain ⟨hitem, hconstraint⟩ := hmem
  obtain ⟨clause, hsaid⟩ := exists_isSaid_of_mem h hitem
  dsimp only [column]
  rw [hsaid.not_flagged hconstraint, Bool.and_false]

theorem items_of_clauses (h : List.Forall₂ Clause.Spells clauses texts) (hne : clauses ≠ []) :
    List.Forall₂ Clause.IsSaid clauses (items ([','].intercalate texts)) := by
  have hforall : ∀ text ∈ texts, Closed false text ∧ trim text ≠ [] := by
    clear hne
    induction h with
    | nil => exact List.forall_mem_nil _
    | cons htext _ ih => exact List.forall_mem_cons.mpr ⟨⟨htext.closed, htext.isSaid.ne_nil⟩, ih⟩
  have htexts : texts ≠ [] := by
    rintro rfl
    exact hne (List.forall₂_nil_right_iff.mp h)
  rw [items_intercalate htexts (fun text htext ↦ (hforall text htext).1)
    (fun text htext ↦ (hforall text htext).2), List.forall₂_map_right_iff]
  exact h.imp fun _ _ htext ↦ htext.isSaid

/-- A key makes the column that it names stand for the row id, if it has no other and the type of
the column is an integer type. No other column stands for it. -/
theorem columns_of_clauses {front tail : List Char} {first : String} {others : List String}
    (hfront : '(' ∉ front) (htail : ')' ∉ tail)
    (htexts : List.Forall₂ Clause.Spells (before ++ .key first others :: after) texts)
    (hkey : ∀ clause ∈ before ++ after, clause.key? = none) :
    ∃ declared, columns (tableText front texts tail) = .ok declared ∧
      declared.map (fun column ↦ (column.name, column.declaredType)) =
        (before ++ after).filterMap Clause.column? ∧
      ∀ i column, declared[i]? = some column → (column.isRowId ↔
        others = [] ∧ declared.findIdx? (fun column ↦ sameName column.name first) = some i ∧
          ∃ word rest, words column.declaredType.toList = word :: rest ∧
            sameLetters word "INTEGER".toList) := by
  have hsaid := items_of_clauses htexts (by simp)
  have hfirst : (before ++ .key first others :: after).findSome? Clause.key? =
      some (first :: others) := by
    obtain ⟨hbefore, -⟩ := List.forall_mem_append.mp hkey
    rw [List.findSome?_append, List.findSome?_eq_none_iff.mpr hbefore, Option.none_or]
    rfl
  have hdeclared : (before ++ .key first others :: after).filterMap Clause.column? =
      (before ++ after).filterMap Clause.column? := by
    rw [List.filterMap_append, List.filterMap_append]
    rfl
  refine ⟨_, columns_tableText hfront htail texts, ?_, ?_⟩
  · rw [columnsOf, map_applyKey (fun _ ↦ rfl), map_mapIdx_column, map_filter_isConstraint,
      filterMap_declared?_of_isSaid hsaid, hdeclared]
  · intro i column hcolumn
    rw [isRowId_applyKey_iff (forall_not_flagged hsaid) hcolumn, columnsOf,
      findIdx?_applyKey (fun _ ↦ rfl), findSome?_of_isSaid hsaid, hfirst, Option.map_some,
      Option.getD_some, keyOrdinal?_cons_iff, declaresInteger_iff, and_assoc]

theorem columns_of_clauses_key_first :
    ∃ declared,
      columns "CREATE TABLE t (primary  key ( \"Id\" ASC ), x TEXT, id INTEGER, CHECK (x))" =
        .ok declared ∧
      declared.map (fun column ↦ (column.name, column.declaredType)) =
        [("x", "TEXT"), ("id", "INTEGER")] ∧
      ∀ i column, declared[i]? = some column → (column.isRowId ↔ ([] : List String) = [] ∧
        declared.findIdx? (fun column ↦ sameName column.name "Id") = some i ∧
          ∃ word rest, words column.declaredType.toList = word :: rest ∧
            sameLetters word "INTEGER".toList) := by
  have hspace : IsBlanks [' '] := .singleton rfl
  have hspaces : IsGap [' ', ' '] := ⟨by simp, by simp [IsBlanks, isBlank]⟩
  have hstart : KeyWords ("primary".toList ++ ([' ', ' '] ++ "key".toList)) :=
    .mk (by simp [sameLetters]) hspaces (by simp [sameLetters])
  have hdirection : Closed false " ASC ".toList := .of_forall (by simp [quoteEnd?, closingMark?])
  have hquoted : BeginsWithName "Id".toList " ASC ".toList
      ('"' :: ("Id".toList ++ '"' :: " ASC ".toList)) := .quoted rfl (by simp)
  have hkey : Clause.Spells (.key "Id" []) "primary  key ( \"Id\" ASC )".toList :=
    .key IsBlanks.nil hstart hspace
      (.cons (.mk hspace hquoted hdirection (by simp) (by simp)) .nil) .nil
  have htext : Closed false " TEXT".toList := .of_forall (by simp [quoteEnd?, closingMark?])
  have hinteger : Closed false " INTEGER".toList := .of_forall (by simp [quoteEnd?, closingMark?])
  have hx : BeginsWithName "x".toList " TEXT".toList ("x".toList ++ " TEXT".toList) :=
    .bare (by simp) (by simp) (by simp [isBlank])
  have hid : BeginsWithName "id".toList " INTEGER".toList ("id".toList ++ " INTEGER".toList) :=
    .bare (by simp) (by simp) (by simp [isBlank])
  have hfirst : Clause.Spells (.column "x" "TEXT") " x TEXT".toList :=
    .column hspace hx (.inr (by simp [sameLetters])) htext rfl
  have hsecond : Clause.Spells (.column "id" "INTEGER") " id INTEGER".toList :=
    .column hspace hid (.inr (by simp [sameLetters])) hinteger rfl
  have hword : Closed false "CHECK ".toList := .of_forall (by simp [quoteEnd?, closingMark?])
  have hinner : Closed true ['x'] := .of_forall (by simp [quoteEnd?, closingMark?])
  have hkeyword : sameLetters "CHECK".toList "CHECK".toList := by simp [sameLetters]
  have hcheck : ConstraintSpelled ("CHECK".toList ++ " (x)".toList) :=
    .word (by simp) hkeyword (by simp [isBlank])
  have hconstraint : Clause.Spells .constraint " CHECK (x)".toList :=
    .constraint hspace hcheck (hword.append (.parenthesized hinner)) (by decide)
  have htexts : List.Forall₂ Clause.Spells
      ([] ++ .key "Id" [] :: [.column "x" "TEXT", .column "id" "INTEGER", .constraint])
      ["primary  key ( \"Id\" ASC )".toList, " x TEXT".toList, " id INTEGER".toList,
        " CHECK (x)".toList] :=
    .cons hkey (.cons hfirst (.cons hsecond (.cons hconstraint .nil)))
  have hsql : "CREATE TABLE t (primary  key ( \"Id\" ASC ), x TEXT, id INTEGER, CHECK (x))" =
      tableText "CREATE TABLE t ".toList ["primary  key ( \"Id\" ASC )".toList, " x TEXT".toList,
        " id INTEGER".toList, " CHECK (x)".toList] [] := by decide +kernel
  rw [hsql]
  exact columns_of_clauses (by simp) List.not_mem_nil htexts (by simp [Clause.key?])

end Clauses

end TableFile.Definition
