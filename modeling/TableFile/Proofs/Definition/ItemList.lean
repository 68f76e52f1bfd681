import TableFile.Proofs.Definition.RowId
import TableFile.Proofs.Definition.TopLevel

namespace TableFile.Definition

open Text

def tableText (front : List Char) (texts : List (List Char)) (tail : List Char) : String :=
  .ofList (front ++ '(' :: ([','].intercalate texts ++ ')' :: tail))

theorem columns_tableText {front tail : List Char} (hfront : '(' ∉ front) (htail : ')' ∉ tail)
    (texts : List (List Char)) :
    columns (tableText front texts tail) = .ok (columnsOf (items ([','].intercalate texts))) :=
  columns_eq_ok_iff.mpr ⟨_, columnList_of_not_mem hfront htail, rfl⟩

section Items

variable {text : List Char} {texts before : List (List Char)}

theorem splitItems_intercalate (hne : texts ≠ []) (h : ∀ text ∈ texts, Closed false text) :
    splitItems ([','].intercalate texts) = texts := by
  apply CutAtCommas.splitItems_eq
  apply cutAtCommas_intercalate hne
  · exact fun text htext ↦ (h text htext).isItem
  · exact fun text htext ↦ (h text (List.mem_of_mem_dropLast htext)).endsOutside

theorem items_intercalate (hne : texts ≠ []) (hclosed : ∀ text ∈ texts, Closed false text)
    (htrim : ∀ text ∈ texts, trim text ≠ []) :
    items ([','].intercalate texts) = texts.map trim := by
  rw [items, splitItems_intercalate hne hclosed, List.filter_eq_self]
  intro item hitem
  obtain ⟨text, htext, rfl⟩ := List.mem_map.mp hitem
  exact decide_eq_true (htrim text htext)

theorem items_intercalate_cons (h : Closed false text) (texts : List (List Char)) :
    items ([','].intercalate (text :: texts)) = items text ++ items ([','].intercalate texts) := by
  cases texts with
  | nil =>
    rw [List.intercalate_singleton]
    exact (List.append_nil _).symm
  | cons next texts =>
    rw [List.intercalate_cons_cons, List.append_assoc, List.singleton_append]
    unfold items
    rw [splitItems_append_cons h, splitItems_closed h, List.map_cons, List.map_singleton,
      ← List.singleton_append, List.filter_append]

/-- Texts that close what they open are read each by itself, whatever follows them. -/
theorem items_intercalate_append (h : ∀ text ∈ before, Closed false text)
    (texts : List (List Char)) : items ([','].intercalate (before ++ texts)) =
      before.flatMap items ++ items ([','].intercalate texts) := by
  induction before with
  | nil => rfl
  | cons text before ih =>
    obtain ⟨htext, hbefore⟩ := List.forall_mem_cons.mp h
    rw [List.cons_append, items_intercalate_cons htext, ih hbefore, List.flatMap_cons,
      List.append_assoc]

/-- What a list says is put together from what the texts in front of one of them, that text and
those behind it say. -/
theorem items_intercalate_append_cons (hbefore : ∀ text ∈ before, Closed false text)
    (htext : Closed false text) (hne : trim text ≠ []) (after : List (List Char)) :
    items ([','].intercalate (before ++ text :: after)) =
      before.flatMap items ++ trim text :: items ([','].intercalate after) := by
  rw [items_intercalate_append hbefore, items_intercalate_cons htext, items_closed htext hne,
    List.singleton_append]

theorem columns_entry {front tail : List Char} (hfront : '(' ∉ front) (htail : ')' ∉ tail)
    (hbefore : ∀ text ∈ before, Closed false text) (htext : Closed false text)
    (hne : trim text ≠ []) (after : List (List Char)) :
    columns (tableText front (before ++ text :: after) tail) =
      .ok (columnsOf (before.flatMap items ++ trim text :: items ([','].intercalate after))) := by
  rw [columns_tableText hfront htail, items_intercalate_append_cons hbefore htext hne]

end Items

section Constraint

variable {item item' : List Char} {before after : List (List Char)}

theorem columnsOf_append_cons (h : isConstraint item) :
    columnsOf (before ++ item :: after) =
      applyKey ((((before.filter isConstraint).findSome? primaryKey?).or
          ((primaryKey? item).or ((after.filter isConstraint).findSome? primaryKey?))).getD [])
        (((before ++ after).filter (!isConstraint ·)).mapIdx fun i item ↦ column item i) := by
  have hdeclared : (before ++ item :: after).filter (!isConstraint ·) =
      (before ++ after).filter (!isConstraint ·) := by
    rw [List.filter_append, List.filter_cons_of_neg (by simp [h]), ← List.filter_append]
  have hkey : ((before ++ item :: after).filter isConstraint).findSome? primaryKey? =
      ((before.filter isConstraint).findSome? primaryKey?).or
        ((primaryKey? item).or ((after.filter isConstraint).findSome? primaryKey?)) := by
    rw [List.filter_append, List.filter_cons_of_pos h, List.findSome?_append, List.findSome?_cons]
    cases primaryKey? item <;> rfl
  rw [columnsOf, hdeclared, hkey]

theorem columnsOf_replace (h : isConstraint item) (h' : isConstraint item')
    (hkey : primaryKey? item = primaryKey? item') :
    columnsOf (before ++ item :: after) = columnsOf (before ++ item' :: after) := by
  rw [columnsOf_append_cons h, columnsOf_append_cons h', hkey]

theorem columnsOf_of_primaryKey?_eq_none (h : isConstraint item) (hkey : primaryKey? item = none) :
    columnsOf (before ++ item :: after) = columnsOf (before ++ after) := by
  rw [columnsOf_append_cons h, hkey, Option.none_or, ← List.findSome?_append, ← List.filter_append,
    columnsOf]

end Constraint

end TableFile.Definition
