import TableFile.Proofs.Definition.IndexKey
import TableFile.Proofs.Definition.ItemList
import TableFile.Proofs.Text.Capitals

namespace TableFile.Definition

open Text

structure IsWordName (name : List Char) : Prop where
  ne_nil : name ≠ []
  letters : ∀ c ∈ name, isLetterOrDigit c ∨ c = '_'

theorem IsWordName.of_all {name : List Char} (hne : name ≠ []) (h : name.all isLetterOrDigit) :
    IsWordName name :=
  ⟨hne, fun c hc ↦ .inl (List.all_eq_true.mp h c hc)⟩

def constraintStarts : List String :=
  constraintWords ++ ["PRIMARY"]

def PassesForConstraint (name type : List Char) : Prop :=
  (∃ keyword ∈ constraintWords, readsAs keyword.toList name) ∨
    readsAs "PRIMARY".toList name ∧ "KEY".toList <+: upper type

def Declares (sql : String) (names : List (String × String)) : Prop :=
  ∃ declared, columns sql = .ok declared ∧
    declared.map (fun column ↦ (column.name, column.declaredType)) = names ∧
    declared.map Column.ordinal = List.range declared.length

theorem Declares.unique {sql : String} {names names' : List (String × String)}
    (h : Declares sql names) (h' : Declares sql names') : names = names' := by
  obtain ⟨declared, hcolumns, rfl, -⟩ := h
  obtain ⟨declared', hcolumns', rfl, -⟩ := h'
  rw [hcolumns] at hcolumns'
  rw [Except.ok.inj hcolumns']

theorem declares_tableText {front tail : List Char} (hfront : '(' ∉ front) (htail : ')' ∉ tail)
    (texts : List (List Char)) :
    Declares (tableText front texts tail)
      ((items ([','].intercalate texts)).filterMap declared?) := by
  refine ⟨_, columns_tableText hfront htail texts, ?_, ?_⟩
  · rw [columnsOf, map_applyKey (fun _ ↦ rfl), map_mapIdx_column, map_filter_isConstraint]
  · exact map_ordinal_applyKey _ _

theorem exists_declares_entry {front tail entry : List Char} {before : List (List Char)}
    (hfront : '(' ∉ front) (htail : ')' ∉ tail) (hbefore : ∀ text ∈ before, Closed false text)
    (hentry : Closed false entry) (hne : trim entry ≠ []) (after : List (List Char)) :
    ∃ left right, Declares (tableText front before tail) left ∧
      Declares (tableText front (before ++ after) tail) (left ++ right) ∧
      Declares (tableText front (before ++ entry :: after) tail)
        (left ++ ((declared? (trim entry)).toList ++ right)) := by
  have hdeclares (texts : List (List Char)) := declares_tableText hfront htail (before ++ texts)
  have hleft := hdeclares []
  have hnone : items ([','].intercalate []) = [] := rfl
  rw [items_intercalate_append hbefore, hnone, List.append_nil, List.append_nil] at hleft
  have hboth := hdeclares after
  rw [items_intercalate_append hbefore, List.filterMap_append] at hboth
  have htable := hdeclares (entry :: after)
  have hitem (list : List (List Char)) : (trim entry :: list).filterMap declared? =
      (declared? (trim entry)).toList ++ list.filterMap declared? := by
    rw [List.filterMap_cons]
    cases declared? (trim entry) <;> rfl
  rw [items_intercalate_append_cons hbefore hentry hne, List.filterMap_append, hitem] at htable
  exact ⟨_, _, hleft, hboth, htable⟩

section Name

variable {name type item : List Char} {keyword : String}

namespace IsWordName

variable (h : IsWordName name)
include h

theorem isPlainName : isPlainName name := by
  apply List.all_eq_true.mpr
  intro c hc
  obtain hletter | rfl := h.letters c hc
  · rw [hletter, Bool.true_or, Bool.true_or]
  · rfl

theorem isWord : IsWord name :=
  isWord_of_isPlainName h.isPlainName h.ne_nil

theorem closed : Closed false name :=
  .of_not_mem (listMarks_not_mem h.isPlainName)

theorem opening_not_mem_upper : '(' ∉ upper name := by
  intro hmem
  obtain ⟨c, hc, hcapitals⟩ := List.mem_flatMap.mp hmem
  obtain rfl := eq_of_mem_capitals (by decide) (by decide) hcapitals
  exact listMarks_not_mem h.isPlainName _ (by decide) hc

end IsWordName

theorem upper_eq_iff_of_constraintStarts (hkeyword : keyword ∈ constraintStarts) :
    upper name = keyword.toList ↔ readsAs keyword.toList name := by
  have hforeign : ∀ keyword ∈ constraintStarts, ∀ t ∈ foreignCapitals, ¬t <:+: keyword.toList := by
    simp [constraintStarts, constraintWords, foreignCapitals, List.infix_cons_iff]
  have hupper := (keyword_isUpper (List.mem_append_left ["KEY"] hkeyword)).2
  exact upper_eq_iff_readsAs hupper (hforeign keyword hkeyword)

theorem isConstraint_iff_passes (hname : IsWordName name) (hitem : words item = [name, type]) :
    isConstraint item ↔ PassesForConstraint name type := by
  have hword {keyword : String} (hkeyword : keyword ∈ constraintWords) :
      upper name = keyword.toList ↔ readsAs keyword.toList name :=
    upper_eq_iff_of_constraintStarts (List.mem_append_left _ hkeyword)
  have hprimary : upper name = "PRIMARY".toList ↔ readsAs "PRIMARY".toList name :=
    upper_eq_iff_of_constraintStarts (List.mem_append_right _ List.mem_cons_self)
  constructor
  · intro h
    rw [isConstraint, hitem] at h
    simp only [List.map_cons, List.map_nil] at h
    split at h
    · next hupper =>
      rw [List.head?_cons, Option.any_some, List.isPrefixOf_iff_prefix] at h
      exact .inr ⟨hprimary.mp hupper, h⟩
    · obtain ⟨keyword, hkeyword, hfirst⟩ := List.any_eq_true.mp h
      rw [Bool.or_eq_true, decide_eq_true_eq, List.isPrefixOf_iff_prefix] at hfirst
      obtain hupper | hbegins := hfirst
      · exact .inl ⟨keyword, hkeyword, (hword hkeyword).mp hupper⟩
      · exact absurd (hbegins.subset (by simp)) hname.opening_not_mem_upper
  · intro h
    obtain ⟨keyword, hkeyword, hreads⟩ | ⟨hreads, htype⟩ := h
    · exact isConstraint_of_word hitem hkeyword (.inl ((hword hkeyword).mpr hreads))
    · exact isConstraint_of_primary hitem (hprimary.mpr hreads) htype

/-- Without a character that stands in for letters only the keywords themselves pass. -/
theorem not_passes_of_forall_not_mem (hplain : ∀ c ∈ name, c ∉ standIns)
    (hother : ∀ keyword ∈ constraintStarts, sameLetters keyword.toList name = false)
    (type : List Char) : ¬PassesForConstraint name type := by
  have hreads {keyword : String} (hkeyword : keyword ∈ constraintStarts) :
      ¬readsAs keyword.toList name := by
    rw [readsAs_of_forall_not_mem hplain, hother keyword hkeyword]
    exact Bool.false_ne_true
  intro h
  obtain ⟨keyword, hkeyword, hpasses⟩ | ⟨hpasses, -⟩ := h
  · exact hreads (List.mem_append_left _ hkeyword) hpasses
  · exact hreads (List.mem_append_right _ List.mem_cons_self) hpasses

end Name

section Column

variable {front tail name type lead gap trail : List Char} {before : List (List Char)}

theorem trim_wordColumn (hname : IsWordName name) (htype : IsWord type) (hlead : IsBlanks lead)
    (gap : List Char) (htrail : IsBlanks trail) :
    trim (lead ++ (name ++ (gap ++ (type ++ trail)))) = name ++ (gap ++ type) := by
  have htrimmed := hname.isWord.isTrimmed.append hname.ne_nil gap htype.isTrimmed htype.ne_nil
  have htrim := htrimmed.trim_eq
  rw [← trim_append hlead _ htrail] at htrim
  simpa only [List.append_assoc] using htrim

theorem closed_wordColumn (hname : IsWordName name) (hclosed : Closed false type)
    (hlead : IsBlanks lead) (hgap : IsGap gap) (htrail : IsBlanks trail) :
    Closed false (lead ++ (name ++ (gap ++ (type ++ trail)))) := by
  have hdeclared := hclosed.append (closed_of_isBlanks htrail)
  have hrest := hname.closed.append ((closed_of_isBlanks hgap.blanks).append hdeclared)
  exact (closed_of_isBlanks hlead).append hrest

theorem declared?_wordColumn (hname : IsWordName name) (htype : IsWord type) (hgap : IsGap gap) :
    (PassesForConstraint name type → declared? (name ++ (gap ++ type)) = none) ∧
    (¬PassesForConstraint name type →
      declared? (name ++ (gap ++ type)) = some (.ofList name, .ofList type)) := by
  have hwords : words (name ++ (gap ++ type)) = [name, type] := by
    rw [hname.isWord.words_append (hgap.head_blank type), words_blanks_append hgap.blanks,
      htype.words_eq]
  have hcut : cutName (name ++ (gap ++ type)) = (name, type) := by
    rw [cutName_word hname.isWord (startsQuoted_of_isPlainName hname.isPlainName)
      (hgap.head_blank type), trim_blanks_append hgap.blanks, htype.isTrimmed.trim_eq]
  have hpasses := isConstraint_iff_passes hname hwords
  constructor
  · intro h
    exact if_pos (hpasses.mpr h)
  · intro h
    rw [declared?, if_neg (mt hpasses.mp h), hcut]

/-- A column whose name is a word keeps its place among the others, if it does not pass for a
constraint. If it does, the table has only the others. Of the names without a character that stands
in for letters, only the keywords themselves can pass. -/
theorem columns_wordColumn (hfront : '(' ∉ front) (htail : ')' ∉ tail)
    (hbefore : ∀ text ∈ before, Closed false text) (hname : IsWordName name) (htype : IsWord type)
    (hclosed : Closed false type) (hlead : IsBlanks lead) (hgap : IsGap gap)
    (htrail : IsBlanks trail) (after : List (List Char)) :
    let entry := lead ++ (name ++ (gap ++ (type ++ trail)))
    (∃ left right, Declares (tableText front before tail) left ∧
      Declares (tableText front (before ++ after) tail) (left ++ right) ∧
      (¬PassesForConstraint name type →
        Declares (tableText front (before ++ entry :: after) tail)
          (left ++ (.ofList name, .ofList type) :: right)) ∧
      (PassesForConstraint name type →
        Declares (tableText front (before ++ entry :: after) tail) (left ++ right))) ∧
    ((∀ c ∈ name, c ∉ standIns) →
      (∀ keyword ∈ constraintStarts, sameLetters keyword.toList name = false) →
        ¬PassesForConstraint name type) := by
  intro entry
  have htrim : trim entry = name ++ (gap ++ type) := trim_wordColumn hname htype hlead gap htrail
  have hentry : Closed false entry := closed_wordColumn hname hclosed hlead hgap htrail
  have hne : trim entry ≠ [] := by
    rw [htrim]
    exact List.append_ne_nil_of_left_ne_nil hname.ne_nil _
  obtain ⟨left, right, hleft, hboth, htable⟩ :=
    exists_declares_entry hfront htail hbefore hentry hne after
  rw [htrim] at htable
  obtain ⟨hpasses, hkept⟩ := declared?_wordColumn hname htype hgap
  constructor
  · refine ⟨left, right, hleft, hboth, ?_, ?_⟩
    · intro h
      rw [hkept h] at htable
      exact htable
    · intro h
      rw [hpasses h] at htable
      exact htable
  · intro hplain hother
    exact not_passes_of_forall_not_mem hplain hother type

theorem columns_wordColumn_umlaut :
    Declares "CREATE TABLE t (a INTEGER, größe TEXT, b TEXT)"
      [("a", "INTEGER"), ("größe", "TEXT"), ("b", "TEXT")] := by
  have hspace : IsGap [' '] := .singleton rfl
  have hname : IsWordName "größe".toList := .of_all (by simp) (by decide +kernel)
  have htype : IsKeyword "TEXT".toList := ⟨by simp, by simp⟩
  have hbefore : ∀ text ∈ ["a INTEGER".toList], Closed false text := by
    intro text htext
    obtain rfl := List.mem_singleton.mp htext
    exact .of_forall (by simp [quoteEnd?, closingMark?])
  have hplain : ∀ c ∈ "größe".toList, c ∉ standIns := by simp [standIns]
  have hother : ∀ keyword ∈ constraintStarts,
      sameLetters keyword.toList "größe".toList = false := by
    simp [constraintStarts, constraintWords, sameLetters]
  obtain ⟨⟨left, right, hleft, hboth, hkept, -⟩, hnot⟩ :=
    columns_wordColumn (by simp : '(' ∉ "CREATE TABLE t ".toList) List.not_mem_nil hbefore hname
      htype.isWord (closed_of_isKeyword htype false) hspace.blanks hspace IsBlanks.nil
      [" b TEXT".toList]
  have hleft' : Declares (tableText "CREATE TABLE t ".toList ["a INTEGER".toList] [])
      [("a", "INTEGER")] := ⟨[⟨"a", "INTEGER", 0, false⟩], by decide +kernel, rfl, rfl⟩
  have hboth' : Declares
      (tableText "CREATE TABLE t ".toList (["a INTEGER".toList] ++ [" b TEXT".toList]) [])
      ([("a", "INTEGER")] ++ [("b", "TEXT")]) :=
    ⟨[⟨"a", "INTEGER", 0, false⟩, ⟨"b", "TEXT", 1, false⟩], by decide +kernel, rfl, rfl⟩
  obtain rfl := hleft.unique hleft'
  obtain rfl := List.append_cancel_left (hboth.unique hboth')
  exact hkept (hnot hplain hother)

/-- The name is none of the keywords, but the column is not among those of the table. -/
theorem columns_wordColumn_dotless :
    IsWordName "unıque".toList ∧
      (∀ keyword ∈ constraintStarts, sameLetters keyword.toList "unıque".toList = false) ∧
      columns "CREATE TABLE t (a INTEGER, unıque TEXT, b TEXT)" =
        .ok [⟨"a", "INTEGER", 0, false⟩, ⟨"b", "TEXT", 1, false⟩] := by
  refine ⟨.of_all (by simp) (by decide +kernel), ?_, by decide +kernel⟩
  simp [constraintStarts, constraintWords, sameLetters]

end Column

end TableFile.Definition
