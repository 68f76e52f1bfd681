import TableFile.Definition.IndexColumn
import TableFile.Proofs.Definition.Parenthesized
import TableFile.Proofs.Text.Quotes

namespace TableFile.Definition

open Text

def quotedIndex (index table column : String) : String :=
  "CREATE INDEX \"" ++ index ++ "\" ON \"" ++ table ++ "\" (\"" ++ column ++ "\")"

variable {index table column : String} {name s inner : List Char}

theorem parenthesized?_quotedIndex (hindex : '(' ∉ index.toList) (htable : '(' ∉ table.toList) :
    parenthesized? (quotedIndex index table column).toList =
      parenthesizedFrom? 0 (inQuotes column.toList ++ [')']) := by
  have hfront : '(' ∉ ("CREATE INDEX \"" ++ index ++ "\" ON \"" ++ table ++ "\" ").toList := by
    simp [hindex, htable]
  have hsql : (quotedIndex index table column).toList =
      ("CREATE INDEX \"" ++ index ++ "\" ON \"" ++ table ++ "\" ").toList ++
        '(' :: (inQuotes column.toList ++ [')']) := by
    unfold quotedIndex
    simp [inQuotes]
  rw [hsql, parenthesized?_append hfront]

/-- What the list of such an index encloses is the column, or ends at a parenthesis within it. -/
theorem eq_of_parenthesizedFrom?_inQuotes
    (h : parenthesizedFrom? 0 (inQuotes name ++ [')']) = some inner) :
    inner = inQuotes name ∧ IsBalanced name ∨
      ∃ s rest, inner = '"' :: s ∧ name = s ++ ')' :: rest := by
  obtain ⟨rest, heq, hbalances⟩ := parenthesizedFrom?_eq_some_iff.mp h
  rw [inQuotes, List.cons_append, List.append_assoc] at heq
  cases inner with
  | nil => cases heq
  | cons c s =>
    obtain ⟨rfl, htail⟩ := List.cons.inj heq
    rcases List.append_eq_append_iff.mp htail with ⟨t, rfl, ht⟩ | ⟨t, rfl, ht⟩
    · cases t with
      | nil => cases ht
      | cons d t =>
        obtain ⟨rfl, ht⟩ := List.cons.inj ht
        cases t with
        | nil => exact .inl ⟨rfl, isBalanced_inQuotes_iff.mp hbalances⟩
        | cons d t => simp at ht
    · cases t with
      | nil => cases ht
      | cons c t =>
        obtain ⟨rfl, -⟩ := List.cons.inj ht
        exact .inr ⟨s, t, rfl, rfl⟩

theorem splitFrom_unclosed {depth : Nat} {mark : Char} (h : mark ∉ s) :
    splitFrom ⟨depth, some mark⟩ s = [s] := by
  induction s with
  | nil => rfl
  | cons c s ih =>
    obtain ⟨hc, hs⟩ := List.ne_and_not_mem_of_not_mem_cons h
    have hstep : (⟨depth, some mark⟩ : Nesting).step c = ⟨depth, some mark⟩ := if_neg (Ne.symm hc)
    rw [splitFrom_cons (by simp [Nesting.outside]), hstep, ih hs]
    rfl

theorem splitItems_brokenOff (h : '"' ∉ s) : splitItems ('"' :: s) = ['"' :: s] := by
  have hstep : Nesting.outside.step '"' = ⟨0, some '"'⟩ := rfl
  rw [splitItems, splitFrom_cons (by simp), hstep, splitFrom_unclosed h]
  rfl

theorem quote_mem_cutName (h : '"' ∉ s) : '"' ∈ (cutName (trim ('"' :: s))).1 := by
  obtain ⟨t, ht, hfront⟩ := exists_trim_cons (c := '"') rfl s
  rw [ht, cutName, quotedName?_brokenOff fun hmem ↦ h (hfront.subset hmem)]
  exact List.mem_cons_self

theorem toList_of_indexColumn? {sql : String} {list : List Char}
    (hlist : parenthesized? sql.toList = some list) (h : indexColumn? sql = .ok (some column)) :
    column.toList = (cutName (trim ((splitItems list).headD []))).1 := by
  simp only [indexColumn?, hlist] at h
  split at h
  · cases h
  · split at h
    · rw [← Option.some.inj (Except.ok.inj h), String.toList_ofList]
    · cases h

theorem indexColumn?_of_inQuotes {sql : String} (hne : column ≠ "") (hcolumn : '"' ∉ column.toList)
    (hlist : parenthesized? sql.toList = some (inQuotes column.toList)) :
    indexColumn? sql = .ok (some column) := by
  have hspelled : NameSpelled column.toList (inQuotes column.toList) := .quoted rfl hcolumn
  have hcut : cutName (inQuotes column.toList) = (column.toList, []) := by
    have hname : cutName (inQuotes column.toList ++ []) = (column.toList, trim []) :=
      cutName_of_spelled hspelled (by simp)
    rwa [List.append_nil] at hname
  have hname : column.toList ≠ [] := fun hnil ↦ hne (String.toList_eq_nil_iff.mp hnil)
  rw [indexColumn?, hlist]
  simp only [splitItems_closed (hspelled.closed false), List.headD_cons, trim_inQuotes, hcut,
    if_neg hname, String.ofList_toList]
  rfl

/-- The column of such an index is read as it is written if and only if its parentheses balance. -/
theorem indexColumn?_quotedIndex_iff (hne : column ≠ "") (hcolumn : '"' ∉ column.toList)
    (hindex : '(' ∉ index.toList) (htable : '(' ∉ table.toList) :
    indexColumn? (quotedIndex index table column) = .ok (some column) ↔
      IsBalanced column.toList := by
  have hlist : parenthesized? (quotedIndex index table column).toList = _ :=
    parenthesized?_quotedIndex hindex htable
  constructor
  · intro h
    cases hinner : parenthesizedFrom? 0 (inQuotes column.toList ++ [')']) with
    | none =>
      rw [hinner] at hlist
      simp only [indexColumn?, hlist] at h
      cases h
    | some inner =>
      rw [hinner] at hlist
      have hname := toList_of_indexColumn? hlist h
      rcases eq_of_parenthesizedFrom?_inQuotes hinner with ⟨-, hbalanced⟩ | ⟨s, rest, rfl, hs⟩
      · exact hbalanced
      · have hquote : '"' ∉ s := by
          rw [hs] at hcolumn
          exact fun hmem ↦ hcolumn (List.mem_append_left _ hmem)
        have hmem : '"' ∈ (cutName (trim ((splitItems ('"' :: s)).headD []))).1 := by
          rw [splitItems_brokenOff hquote]
          exact quote_mem_cutName hquote
        rw [← hname] at hmem
        exact absurd hmem hcolumn
  · intro hbalanced
    refine indexColumn?_of_inQuotes hne hcolumn (hlist.trans ?_)
    exact parenthesizedFrom?_eq_some_iff.mpr ⟨[], rfl, isBalanced_inQuotes_iff.mpr hbalanced⟩

end TableFile.Definition
