import TableFile.Proofs.Definition.Nesting

namespace TableFile.Definition

open Text

namespace Nesting

def after (s : Nesting) (text : List Char) : Nesting :=
  text.foldl step s

@[simp] theorem after_nil (s : Nesting) : s.after [] = s := rfl

@[simp] theorem after_cons (s : Nesting) (c : Char) (text : List Char) :
    s.after (c :: text) = (s.step c).after text := rfl

end Nesting

/-- A comma behind the text would stand outside all quotes and parentheses. -/
def EndsOutside (text : List Char) : Prop :=
  Nesting.outside.after text = .outside

instance (text : List Char) : Decidable (EndsOutside text) :=
  inferInstanceAs (Decidable (_ = _))

def IsItemFrom (s : Nesting) (text : List Char) : Prop :=
  ∀ front rest, text = front ++ ',' :: rest → s.after front ≠ .outside

def IsItem (text : List Char) : Prop :=
  IsItemFrom .outside text

/-- The items of a list. Behind each but the last is a comma that stands outside. -/
inductive CutAtCommas : (list : List Char) → (items : List (List Char)) → Prop
  | last {item : List Char} (hitem : IsItem item) : CutAtCommas item [item]
  | comma {item list : List Char} {items : List (List Char)} (hitem : IsItem item)
      (hend : EndsOutside item) (hlist : CutAtCommas list items) :
      CutAtCommas (item ++ ',' :: list) (item :: items)

section Item

variable {s : Nesting} {c : Char} {text item : List Char}

theorem isItemFrom_nil (s : Nesting) : IsItemFrom s [] := by
  intro front rest h
  exact absurd h.symm (List.append_ne_nil_of_right_ne_nil front (List.cons_ne_nil ',' rest))

theorem isItemFrom_cons_iff :
    IsItemFrom s (c :: text) ↔ ¬(c = ',' ∧ s = .outside) ∧ IsItemFrom (s.step c) text := by
  constructor
  · intro h
    constructor
    · intro ⟨hc, hs⟩
      apply h [] text
      · rw [hc, List.nil_append]
      · exact hs
    · intro front rest htext
      apply h (c :: front) rest
      rw [htext, List.cons_append]
  · intro ⟨hc, htext⟩ front rest heq
    cases front with
    | nil =>
      intro hs
      exact hc ⟨(List.cons.inj heq).1, hs⟩
    | cons d front =>
      obtain ⟨hd, hrest⟩ := List.cons.inj heq
      subst hd
      exact htext front rest hrest

theorem splitFrom_item (h : IsItemFrom s text) : splitFrom s text = [text] := by
  induction text generalizing s with
  | nil => rfl
  | cons c text ih =>
    obtain ⟨hc, htext⟩ := isItemFrom_cons_iff.mp h
    rw [splitFrom_cons hc, ih htext, extendFirst]

theorem splitFrom_item_append (h : IsItemFrom s item) (hend : s.after item = .outside)
    (list : List Char) : splitFrom s (item ++ ',' :: list) = item :: splitItems list := by
  induction item generalizing s with
  | nil => rw [List.nil_append, splitFrom, if_pos ⟨rfl, hend⟩, splitItems]
  | cons c item ih =>
    obtain ⟨hc, hitem⟩ := isItemFrom_cons_iff.mp h
    rw [List.cons_append, splitFrom_cons hc, ih hitem hend, extendFirst]

/-- A text is an item, or it has a first comma that stands outside. -/
theorem isItemFrom_or_exists_comma (s : Nesting) (text : List Char) :
    IsItemFrom s text ∨ ∃ item list, text = item ++ ',' :: list ∧ IsItemFrom s item ∧
      s.after item = .outside := by
  induction text generalizing s with
  | nil => exact .inl (isItemFrom_nil s)
  | cons c text ih =>
    by_cases hc : c = ',' ∧ s = .outside
    · exact .inr ⟨[], text, by rw [hc.1, List.nil_append], isItemFrom_nil s, hc.2⟩
    · obtain htext | ⟨item, list, htext, hitem, hend⟩ := ih (s.step c)
      · exact .inl (isItemFrom_cons_iff.mpr ⟨hc, htext⟩)
      · refine .inr ⟨c :: item, list, ?_, isItemFrom_cons_iff.mpr ⟨hc, hitem⟩, hend⟩
        rw [htext, List.cons_append]

end Item

section Cut

variable {list text : List Char} {items : List (List Char)}

theorem cutAtCommas_splitItems (list : List Char) : CutAtCommas list (splitItems list) := by
  obtain hitem | ⟨item, rest, hlist, hitem, hend⟩ := isItemFrom_or_exists_comma .outside list
  · rw [splitItems, splitFrom_item hitem]
    exact .last hitem
  · rw [hlist, splitItems, splitFrom_item_append hitem hend]
    exact .comma hitem hend (cutAtCommas_splitItems rest)
termination_by list.length
decreasing_by
  rw [hlist, List.length_append, List.length_cons]
  omega

namespace CutAtCommas

theorem splitItems_eq (h : CutAtCommas list items) : splitItems list = items := by
  induction h with
  | last hitem => exact splitFrom_item hitem
  | comma hitem hend _ ih => rw [splitItems, splitFrom_item_append hitem hend, ih]

theorem ne_nil (h : CutAtCommas list items) : items ≠ [] := by
  cases h <;> exact List.cons_ne_nil _ _

theorem isItem (h : CutAtCommas list items) : ∀ item ∈ items, IsItem item := by
  induction h with
  | last hitem => exact List.forall_mem_singleton.mpr hitem
  | comma hitem _ _ ih => exact List.forall_mem_cons.mpr ⟨hitem, ih⟩

theorem endsOutside (h : CutAtCommas list items) : ∀ item ∈ items.dropLast, EndsOutside item := by
  induction h with
  | last => exact List.forall_mem_nil _
  | comma _ hend hlist ih =>
    rw [List.dropLast_cons_of_ne_nil hlist.ne_nil]
    exact List.forall_mem_cons.mpr ⟨hend, ih⟩

theorem intercalate_eq (h : CutAtCommas list items) : [','].intercalate items = list := by
  induction h with
  | last => exact List.intercalate_singleton
  | comma _ _ hlist ih =>
    rw [List.intercalate_cons_of_ne_nil hlist.ne_nil, ih, List.append_assoc, List.singleton_append]

end CutAtCommas

theorem splitItems_eq_singleton_iff : splitItems text = [text] ↔ IsItem text := by
  constructor
  · intro h
    apply (cutAtCommas_splitItems text).isItem
    rw [h]
    exact List.mem_singleton_self text
  · exact splitFrom_item

theorem cutAtCommas_intercalate (hne : items ≠ []) (hitems : ∀ item ∈ items, IsItem item)
    (hend : ∀ item ∈ items.dropLast, EndsOutside item) :
    CutAtCommas ([','].intercalate items) items := by
  induction items with
  | nil => exact absurd rfl hne
  | cons item items ih =>
    obtain ⟨hitem, hitems⟩ := List.forall_mem_cons.mp hitems
    by_cases hnil : items = []
    · rw [hnil, List.intercalate_singleton]
      exact .last hitem
    · rw [List.dropLast_cons_of_ne_nil hnil] at hend
      obtain ⟨hend, hends⟩ := List.forall_mem_cons.mp hend
      rw [List.intercalate_cons_of_ne_nil hnil, List.append_assoc, List.singleton_append]
      exact .comma hitem hend (ih hnil hitems hends)

theorem Closed.isItem (h : Closed false text) : IsItem text :=
  splitItems_eq_singleton_iff.mp (splitItems_closed h)

theorem Closed.endsOutside (h : Closed false text) : EndsOutside text := by
  have hends := (cutAtCommas_splitItems (text ++ ',' :: [])).endsOutside
  rw [splitItems_append_cons h] at hends
  exact hends text List.mem_cons_self

end Cut

/-- A list is the join of its items, and none of these is cut again: commas within an item stand in
quotes or in parentheses, also where these are never closed. Texts of this kind, of which only the
last may end within quotes or parentheses, are the items of their join. -/
theorem splitItems_lossless :
    (∀ list, [','].intercalate (splitItems list) = list ∧
      (∀ item ∈ splitItems list, splitItems item = [item]) ∧
      ∀ item ∈ (splitItems list).dropLast, EndsOutside item) ∧
    (∀ text, splitItems text = [text] ↔
      ∀ front rest, text = front ++ ',' :: rest → ¬EndsOutside front) ∧
    ∀ items, items ≠ [] → (∀ item ∈ items, splitItems item = [item]) →
      (∀ item ∈ items.dropLast, EndsOutside item) →
      splitItems ([','].intercalate items) = items := by
  refine ⟨fun list ↦ ?_, fun text ↦ splitItems_eq_singleton_iff, fun items hne hitems hend ↦ ?_⟩
  · have hcut := cutAtCommas_splitItems list
    refine ⟨hcut.intercalate_eq, fun item hitem ↦ ?_, hcut.endsOutside⟩
    exact splitItems_eq_singleton_iff.mpr (hcut.isItem item hitem)
  · refine (cutAtCommas_intercalate hne (fun item hitem ↦ ?_) hend).splitItems_eq
    exact splitItems_eq_singleton_iff.mp (hitems item hitem)

/-- The last item never closes its quote, and the first closes more parentheses than it opens. -/
theorem splitItems_lossless_unclosed :
    let items := ["a)".toList, " f(b, [,)])".toList, "'c, (d".toList]
    items ≠ [] ∧ (∀ item ∈ items, splitItems item = [item]) ∧
      (∀ item ∈ items.dropLast, EndsOutside item) ∧
      splitItems "a), f(b, [,)]),'c, (d".toList = items := by
  intro items
  have hne : items ≠ [] := List.cons_ne_nil _ _
  have hitems : ∀ item ∈ items, splitItems item = [item] := by decide
  have hend : ∀ item ∈ items.dropLast, EndsOutside item := by decide
  exact ⟨hne, hitems, hend, splitItems_lossless.2.2 items hne hitems hend⟩

end TableFile.Definition
