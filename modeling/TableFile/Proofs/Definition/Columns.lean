import TableFile.Definition.Columns
import TableFile.Proofs.Definition.Item
import TableFile.Proofs.Except

namespace TableFile.Definition

open Text

inductive Entry where
  | column (name declaredType : String)
  | constraint
deriving DecidableEq

def Entry.column? : Entry → Option (String × String)
  | column name declaredType => some (name, declaredType)
  | constraint => none

inductive Entry.Spells : Entry → List Char → Prop
  | column {name text gap declared : List Char} (hname : NameSpelled name text)
      (hgap : IsBlanks gap) (hapart : declared ≠ [] → gap ≠ []) (htrim : trim declared = declared)
      (hclosed : Closed false declared) :
      Spells (.column (.ofList name) (.ofList declared)) (text ++ (gap ++ declared))
  | constraint {text : List Char} (htext : ConstraintSpelled text) (hclosed : Closed false text) :
      Spells .constraint text

inductive ListSpelled : List Entry → List Char → Prop
  | none {blanks : List Char} (hblanks : IsBlanks blanks) : ListSpelled [] blanks
  | one {entry : Entry} {before text after : List Char} (hbefore : IsBlanks before)
      (htext : entry.Spells text) (hafter : IsBlanks after) :
      ListSpelled [entry] (before ++ (text ++ after))
  | more {entry : Entry} {before text after list : List Char} {entries : List Entry}
      (hbefore : IsBlanks before) (htext : entry.Spells text) (hafter : IsBlanks after)
      (hlist : ListSpelled entries list) :
      ListSpelled (entry :: entries) (before ++ (text ++ (after ++ ',' :: list)))

/-- The texts that define a table: a list of entries in parentheses, behind the first opening one
and in front of the last closing one. -/
inductive Spells : List Entry → String → Prop
  | mk {entries : List Entry} {front list tail : List Char} (hfront : '(' ∉ front)
      (hlist : ListSpelled entries list) (htail : ')' ∉ tail) :
      Spells entries (.ofList (front ++ '(' :: (list ++ ')' :: tail)))

def declared? (item : List Char) : Option (String × String) :=
  if isConstraint item then none
  else some (.ofList (cutName item).1, .ofList (cutName item).2)

section Items

variable {entry : Entry} {entries : List Entry} {before text after list : List Char}

theorem closed_of_isBlanks {blanks : List Char} (h : IsBlanks blanks) : Closed false blanks := by
  have hmarks : ∀ c ∈ listMarks, isBlank c = false := by simp [listMarks, isBlank]
  exact .of_not_mem fun c hc ↦ h.not_mem (hmarks c hc)

theorem Entry.Spells.closed (h : entry.Spells text) : Closed false text := by
  cases h with
  | column hname hgap _ _ hclosed =>
    exact (hname.closed false).append ((closed_of_isBlanks hgap).append hclosed)
  | constraint _ hclosed => exact hclosed

theorem closed_placed (hbefore : IsBlanks before) (htext : entry.Spells text)
    (hafter : IsBlanks after) : Closed false (before ++ (text ++ after)) :=
  (closed_of_isBlanks hbefore).append (htext.closed.append (closed_of_isBlanks hafter))

theorem declared?_of_spells (hbefore : IsBlanks before) (htext : entry.Spells text)
    (hafter : IsBlanks after) :
    trim (before ++ (text ++ after)) ≠ [] ∧
      declared? (trim (before ++ (text ++ after))) = entry.column? := by
  cases htext with
  | @column name text gap declared hname hgap hapart htrim _ =>
    have hlast : ∀ c ∈ declared.getLast?, isBlank c = false := by
      rw [← htrim]
      exact getLast?_trim declared
    obtain ⟨gap', hgap', hsame, hitem⟩ := exists_trim_append_gap hname.ne_nil
      hname.head_not_blank hname.getLast_not_blank hlast hbefore hgap hafter
    have hrest : ∀ c ∈ (gap' ++ declared).head?, isBlank c := by
      by_cases hnil : declared = []
      · rw [hnil, List.append_nil]
        exact fun c hc ↦ hgap' c (List.mem_of_mem_head? hc)
      · exact IsGap.head_blank ⟨hsame hnil ▸ hapart hnil, hgap'⟩ declared
    rw [hitem, declared?, hname.isConstraint_append hrest, cutName_of_spelled hname hrest,
      trim_blanks_append hgap', htrim]
    exact ⟨List.append_ne_nil_of_left_ne_nil hname.ne_nil _, rfl⟩
  | constraint htext _ =>
    have hconstraint : isConstraint (trim (before ++ (text ++ after))) := by
      rw [isConstraint_trim_append hbefore text hafter]
      exact htext.isConstraint
    refine ⟨fun hnil ↦ ?_, if_pos hconstraint⟩
    rw [hnil] at hconstraint
    cases hconstraint

theorem items_closed {item : List Char} (hitem : Closed false item) (hne : trim item ≠ []) :
    items item = [trim item] := by
  rw [items, splitItems_closed hitem, List.map_singleton,
    List.filter_cons_of_pos (by simpa using hne), List.filter_nil]

theorem items_append_cons {item : List Char} (hitem : Closed false item) (hne : trim item ≠ [])
    (list : List Char) : items (item ++ ',' :: list) = trim item :: items list := by
  rw [items, splitItems_append_cons hitem, List.map_cons,
    List.filter_cons_of_pos (by simpa using hne), items]

theorem items_of_spelled (h : ListSpelled entries list) :
    (items list).filterMap declared? = entries.filterMap Entry.column? := by
  induction h with
  | @none blanks hblanks =>
    have htrim : trim blanks = [] := by
      have happend := trim_blanks_append hblanks []
      rw [List.append_nil] at happend
      exact happend
    rw [items, splitItems_closed (closed_of_isBlanks hblanks), List.map_singleton, htrim]
    rfl
  | one hbefore htext hafter =>
    obtain ⟨hne, hdeclared⟩ := declared?_of_spells hbefore htext hafter
    rw [items_closed (closed_placed hbefore htext hafter) hne]
    simp only [List.filterMap_cons, List.filterMap_nil, hdeclared]
  | @more entry before text after list entries hbefore htext hafter _ ih =>
    obtain ⟨hne, hdeclared⟩ := declared?_of_spells hbefore htext hafter
    have hassoc : before ++ (text ++ (after ++ ',' :: list)) =
        (before ++ (text ++ after)) ++ ',' :: list := by
      simp only [List.append_assoc]
    rw [hassoc, items_append_cons (closed_placed hbefore htext hafter) hne]
    simp only [List.filterMap_cons, hdeclared, ih]

end Items

section Columns

theorem columnList_of_not_mem {front list tail : List Char} (hfront : '(' ∉ front)
    (htail : ')' ∉ tail) :
    columnList (.ofList (front ++ '(' :: (list ++ ')' :: tail))) = .ok list := by
  rw [columnList, String.toList_ofList, dropWhile_ne hfront]
  simp only [dropWhile_reverse_ne list htail, List.reverse_reverse]

theorem map_applyKey {α : Type} {f : Column → α} (hf : ∀ column, f column.withKey = f column)
    (key : List (List Char)) (columns : List Column) :
    (applyKey key columns).map f = columns.map f := by
  have hmodify (i : Nat) : (columns.modify i Column.withKey).map f = columns.map f := by
    apply List.ext_getElem?
    intro j
    rw [List.getElem?_map, List.getElem?_map, List.getElem?_modify, Option.map_eq_map,
      Option.map_map]
    apply Option.map_congr
    intro column _
    dsimp only [Function.comp_apply]
    split
    · exact hf column
    · rfl
  unfold applyKey
  split
  · split
    · exact hmodify _
    · rfl
  · rfl

theorem length_applyKey (key : List (List Char)) (columns : List Column) :
    (applyKey key columns).length = columns.length := by
  have hmap := congrArg List.length (map_applyKey (f := fun _ ↦ ()) (fun _ ↦ rfl) key columns)
  rwa [List.length_map, List.length_map] at hmap

theorem map_mapIdx_column (items : List (List Char)) :
    (items.mapIdx fun i item ↦ column item i).map
        (fun column ↦ (column.name, column.declaredType)) =
      items.map fun item ↦ (.ofList (cutName item).1, .ofList (cutName item).2) := by
  apply List.ext_getElem?
  intro i
  simp only [List.getElem?_map, List.getElem?_mapIdx, Option.map_map]
  rfl

theorem map_ordinal_mapIdx_column (items : List (List Char)) :
    (items.mapIdx fun i item ↦ column item i).map Column.ordinal = List.range items.length := by
  apply List.ext_getElem
  · rw [List.length_map, List.length_mapIdx, List.length_range]
  · intro i _ _
    rw [List.getElem_map, List.getElem_mapIdx, List.getElem_range]
    rfl

theorem map_filter_isConstraint (items : List (List Char)) :
    ((items.filter (!isConstraint ·)).map
        fun item ↦ (String.ofList (cutName item).1, String.ofList (cutName item).2)) =
      items.filterMap declared? := by
  rw [← List.filterMap_eq_map, List.filterMap_filter]
  apply List.filterMap_congr
  intro item _
  rw [declared?]
  cases isConstraint item <;> rfl

theorem map_ordinal_applyKey (key items : List (List Char)) :
    (applyKey key (items.mapIdx fun i item ↦ column item i)).map Column.ordinal =
      List.range (applyKey key (items.mapIdx fun i item ↦ column item i)).length := by
  rw [map_applyKey (fun _ ↦ rfl), map_ordinal_mapIdx_column, length_applyKey, List.length_mapIdx]

theorem map_ordinal_of_columns {sql : String} {declared : List Column}
    (h : columns sql = .ok declared) :
    declared.map Column.ordinal = List.range declared.length := by
  obtain ⟨list, -, h⟩ := Except.bind_eq_ok_iff.mp h
  rw [← Except.ok.inj h]
  exact map_ordinal_applyKey _ _

/-- However a table definition is written, reading it gives its columns in order, each numbered by
the columns in front of it. -/
theorem columns_of_spells {entries : List Entry} {sql : String} (h : Spells entries sql) :
    ∃ declared, columns sql = .ok declared ∧
      declared.map (fun column ↦ (column.name, column.declaredType)) =
        entries.filterMap Entry.column? ∧
      declared.map Column.ordinal = List.range declared.length := by
  obtain @⟨front, list, tail, hfront, hlist, htail⟩ := h
  rw [columns, columnList_of_not_mem hfront htail]
  refine ⟨_, rfl, ?_, ?_⟩
  · rw [map_applyKey (fun _ ↦ rfl), map_mapIdx_column, map_filter_isConstraint,
      items_of_spelled hlist]
  · exact map_ordinal_applyKey _ _

theorem columns_of_spells_constraints :
    ∃ declared, columns "CREATE TABLE t (id INT,\tChEcK(a, b) ,`x, y`\n) STRICT" = .ok declared ∧
      declared.map (fun column ↦ (column.name, column.declaredType)) =
        [("id", "INT"), ("x, y", "")] ∧
      declared.map Column.ordinal = List.range declared.length := by
  have hspace : IsBlanks [' '] := .singleton rfl
  have htab : IsBlanks ['\t'] := .singleton rfl
  have hline : IsBlanks ['\n'] := .singleton rfl
  have hid : NameSpelled "id".toList "id".toList := .bare ⟨by simp, by simp, by simp [sameLetters]⟩
  have hquoted : NameSpelled "x, y".toList ('\x60' :: ("x, y".toList ++ ['\x60'])) :=
    .quoted rfl (by simp)
  have hint : Closed false "INT".toList := .of_forall (by simp [quoteEnd?, closingMark?])
  have hword : Closed false "ChEcK".toList := .of_forall (by simp [quoteEnd?, closingMark?])
  have hfirst : Closed true ['a'] := .of_forall (by simp [quoteEnd?, closingMark?])
  have hsecond : Closed true [' ', 'b'] := .of_forall (by simp [quoteEnd?, closingMark?])
  have hcheck : Closed false ("ChEcK".toList ++ '(' :: ("a, b".toList ++ [')'])) :=
    hword.append (.parenthesized (hfirst.append (.append .comma hsecond)))
  have hkeyword : sameLetters "CHECK".toList "ChEcK".toList := by simp [sameLetters]
  have hconstraint : ConstraintSpelled ("ChEcK".toList ++ '(' :: ("a, b".toList ++ [')'])) :=
    .word (by simp) hkeyword (by simp)
  have hcolumn := Entry.Spells.column hid hspace (by simp) rfl hint
  have hcolumn' := Entry.Spells.column hquoted hline (by simp) rfl .nil
  have hlist := ListSpelled.more IsBlanks.nil hcolumn IsBlanks.nil
    (.more htab (.constraint hconstraint hcheck) hspace (.one IsBlanks.nil hcolumn' IsBlanks.nil))
  have hfront : '(' ∉ "CREATE TABLE t ".toList := by simp
  have htail : ')' ∉ " STRICT".toList := by simp
  have hcolumns := columns_of_spells (Spells.mk hfront hlist htail)
  exact hcolumns

end Columns

end TableFile.Definition
