import TableFile.Proofs.Definition.Key

namespace TableFile.Definition

open Text

inductive Naming (name : List Char) : List Char → Prop
  | mk {word gap gap' : List Char} (hword : sameLetters "CONSTRAINT".toList word) (hgap : IsGap gap)
      (hne : name ≠ []) (hplain : ∀ c ∈ name, c.isAlphanum ∨ c = '_' ∨ c = '$')
      (hgap' : IsGap gap') : Naming name (word ++ (gap ++ (name ++ gap')))

theorem KeyWords.length_lt_canonical {start found : List Char} (hstart : KeyWords start)
    (hne : found ≠ []) (hplain : ∀ c ∈ found, c.isAlphanum ∨ c = '_' ∨ c = '$')
    (gap rest : List Char) :
    "PRIMARY KEY".toList.length < (canonical (found ++ (gap ++ (start ++ rest)))).length := by
  have hascii : ∀ c ∈ found, c.toNat < 128 := fun c hc ↦ (toNat_of_plain (hplain c hc)).2
  have hpos : 0 < (canonical found).length := by
    rw [canonical_of_isWord (isWord_of_plain hplain hne), upper_of_forall_lt hascii,
      List.length_map]
    exact List.length_pos_of_ne_nil hne
  have hkey := hstart.canonical_append IsBlanks.nil
  rw [List.append_nil] at hkey
  calc "PRIMARY KEY".toList.length = (canonical start).length := by rw [hkey]
    _ ≤ (canonical (start ++ rest)).length := by
      have happend := length_canonical_append_le start rest
      omega
    _ ≤ (canonical (gap ++ (start ++ rest))).length := by
      have happend := length_canonical_append_le gap (start ++ rest)
      omega
    _ < (canonical (found ++ (gap ++ (start ++ rest)))).length := by
      have happend := length_canonical_append_le found (gap ++ (start ++ rest))
      omega

namespace Naming

variable {name naming start : List Char}

theorem plain (h : Naming name naming) : ∀ c ∈ name, c.isAlphanum ∨ c = '_' ∨ c = '$' := by
  obtain ⟨-, -, -, hplain, -⟩ := h
  exact hplain

theorem isConstraint_append (h : Naming name naming) (rest : List Char) :
    isConstraint (naming ++ rest) := by
  obtain @⟨word, gap, gap', hword, hgap, -, -, -⟩ := h
  have hspelled : ConstraintSpelled (word ++ (gap ++ ((name ++ gap') ++ rest))) :=
    .word (by simp) hword fun c hc ↦ .inl (hgap.head_blank _ c hc)
  rw [List.append_assoc, List.append_assoc]
  exact hspelled.isConstraint

theorem closed (h : Naming name naming) : Closed false naming := by
  obtain @⟨word, gap, gap', hword, hgap, hne, hplain, hgap'⟩ := h
  have hkeyword : IsKeyword "CONSTRAINT".toList := ⟨by simp, by simp⟩
  exact (closed_of_isKeyword (hkeyword.of_sameLetters hword) false).append
    ((closed_of_isBlanks hgap.blanks).append
      ((closed_of_plain hplain false).append (closed_of_isBlanks hgap'.blanks)))

theorem trim_append {before : List Char} (h : Naming name naming) (hstart : KeyWords start)
    (hbefore : IsBlanks before) (rest : List Char) :
    trim (before ++ (naming ++ (start ++ rest))) = naming ++ (start ++ trimEnd rest) := by
  obtain @⟨word, gap, gap', hword, hgap, hne, hplain, hgap'⟩ := h
  have hkeyword : IsKeyword "CONSTRAINT".toList := ⟨by simp, by simp⟩
  have hword := (hkeyword.of_sameLetters hword).isWord
  have htrimmed := hword.isTrimmed.append hword.ne_nil (gap ++ (name ++ gap')) hstart.isTrimmed
    hstart.ne_nil
  have htrim := htrimmed.trim_append (List.append_ne_nil_of_left_ne_nil hword.ne_nil _) hbefore rest
  simpa only [List.append_assoc] using htrim

theorem fromWord?_append (h : Naming name naming) (rest : List Char) :
    ∃ gap, IsGap gap ∧ fromWord? "PRIMARY".toList (naming ++ rest) =
      ((fromWord? "PRIMARY".toList name).map (· ++ (gap ++ rest))).or
        (fromWord? "PRIMARY".toList rest) := by
  obtain @⟨word, gap, gap', hword, hgap, hne, hplain, hgap'⟩ := h
  have hprimary : IsKeyword "PRIMARY".toList := ⟨by simp, by simp⟩
  have hnone : fromWord? "PRIMARY".toList word = none := by
    rw [fromWord?_eq_none_iff hprimary.ne_nil, Mentions, ← sameLetters_iff.mp hword]
    decide
  refine ⟨gap', hgap', ?_⟩
  rw [List.append_assoc, List.append_assoc, List.append_assoc, fromWord?_append_gap hprimary hgap,
    hnone, Option.map_none, Option.none_or, fromWord?_append_gap hprimary hgap']

theorem primaryKey?_of_not_mentions (h : Naming name naming)
    (hname : ¬Mentions "PRIMARY".toList name) (rest : List Char) :
    primaryKey? (naming ++ rest) = primaryKey? rest := by
  obtain ⟨gap, -, hsearch⟩ := h.fromWord?_append rest
  rw [(fromWord?_eq_none_iff (by simp)).mpr hname, Option.map_none, Option.none_or] at hsearch
  rw [primaryKey?, hsearch, primaryKey?]

/-- Where the name goes on from `PRIMARY`, more than the words of a key stand before the list. -/
theorem primaryKey?_of_mentions (h : Naming name naming) (hname : Mentions "PRIMARY".toList name)
    (hstart : KeyWords start) (rest : List Char) :
    primaryKey? (naming ++ (start ++ rest)) = none := by
  obtain ⟨gap, hgap, hsearch⟩ := h.fromWord?_append (start ++ rest)
  have hsome : fromWord? "PRIMARY".toList name ≠ none := by
    rw [Ne, fromWord?_eq_none_iff (by simp), not_not]
    exact hname
  obtain ⟨found, hfound⟩ := Option.ne_none_iff_exists'.mp hsome
  obtain ⟨front, rfl, hafter⟩ := exists_of_fromWord? hfound
  have hplain := (List.forall_mem_append.mp h.plain).2
  have hne : found ≠ [] := by
    rintro rfl
    cases hafter
  have hopening : ∀ c ∈ found ++ (gap ++ start), decide (c ≠ '(') = true := by
    intro c hc
    apply decide_eq_true
    rintro rfl
    simp only [List.mem_append] at hc
    rcases hc with hc | hc | hc
    · exact not_mem_of_plain hplain (by decide) hc
    · exact hgap.blanks.not_mem rfl hc
    · exact hstart.opening_not_mem hc
  have hdiffers : ¬sameLetters (canonical ((found ++ (gap ++ (start ++ rest))).takeWhile (· ≠ '(')))
      "PRIMARY KEY".toList := by
    have hassoc : found ++ (gap ++ (start ++ rest)) = (found ++ (gap ++ start)) ++ rest := by
      simp only [List.append_assoc]
    rw [hassoc, List.takeWhile_append_of_pos hopening, List.append_assoc, List.append_assoc,
      sameLetters_iff]
    intro heq
    have heq := congrArg List.length heq
    rw [List.length_map, List.length_map] at heq
    exact (hstart.length_lt_canonical hne hplain gap _).ne' heq
  rw [hfound, Option.map_some, Option.some_or] at hsearch
  rw [primaryKey?_of_fromWord? hsearch, if_neg hdiffers]

end Naming

section Named

variable {front tail lead name naming start rest : List Char} {before after : List (List Char)}

/-- A name makes no difference to a key, unless `PRIMARY` is in it in some case. Then the table is
read as if it had no such key. -/
theorem columns_named (hfront : '(' ∉ front) (htail : ')' ∉ tail)
    (hbefore : ∀ text ∈ before, Closed false text) (hlead : IsBlanks lead) (hstart : KeyWords start)
    (hrest : Closed false rest) (hnaming : Naming name naming) (after : List (List Char)) :
    (¬Mentions "PRIMARY".toList name →
      columns (tableText front (before ++ (lead ++ (naming ++ (start ++ rest))) :: after) tail) =
        columns (tableText front (before ++ (lead ++ (start ++ rest)) :: after) tail)) ∧
    (Mentions "PRIMARY".toList name →
      columns (tableText front (before ++ (lead ++ (naming ++ (start ++ rest))) :: after) tail) =
        columns (tableText front (before ++ after) tail)) := by
  have hkey := hstart.isConstraint_append (trimEnd rest)
  have hnamed := hnaming.isConstraint_append (start ++ trimEnd rest)
  have htrim := hstart.isTrimmed.trim_append hstart.ne_nil hlead rest
  have htrim' := hnaming.trim_append hstart hlead rest
  have hcolumns := columns_entry hfront htail hbefore
    ((closed_of_isBlanks hlead).append (hnaming.closed.append (hstart.closed.append hrest)))
    (by rw [htrim']; exact ne_nil_of_isConstraint hnamed) after
  rw [hcolumns, htrim']
  refine ⟨fun hname ↦ ?_, fun hname ↦ ?_⟩
  · have hcolumns' := columns_entry hfront htail hbefore
      ((closed_of_isBlanks hlead).append (hstart.closed.append hrest))
      (by rw [htrim]; exact ne_nil_of_isConstraint hkey) after
    have hsame := hnaming.primaryKey?_of_not_mentions hname (start ++ trimEnd rest)
    rw [hcolumns', htrim, columnsOf_replace hnamed hkey hsame]
  · rw [columns_tableText hfront htail, items_intercalate_append hbefore,
      columnsOf_of_primaryKey?_eq_none hnamed (hnaming.primaryKey?_of_mentions hname hstart _)]

theorem columns_named_pk :
    columns "CREATE TABLE t (x INTEGER, CONSTRAINT pk PRIMARY KEY (x))" =
        columns "CREATE TABLE t (x INTEGER, PRIMARY KEY (x))" ∧
      columns "CREATE TABLE t (x INTEGER, CONSTRAINT t_primary PRIMARY KEY (x))" =
        columns "CREATE TABLE t (x INTEGER)" := by
  have hspace : IsGap [' '] := .singleton rfl
  have hfront : '(' ∉ "CREATE TABLE t ".toList := by simp
  have hcolumn : ∀ text ∈ ["x INTEGER".toList], Closed false text :=
    List.forall_mem_singleton.mpr (.of_forall (by simp [quoteEnd?, closingMark?]))
  have hstart : KeyWords ("PRIMARY".toList ++ ([' '] ++ "KEY".toList)) :=
    .mk (by simp [sameLetters]) hspace (by simp [sameLetters])
  have hx : Closed true ['x'] := .of_forall (by simp [quoteEnd?, closingMark?])
  have hlist : Closed false ([' '] ++ '(' :: (['x'] ++ [')'])) :=
    (closed_of_isBlanks hspace.blanks).append (.parenthesized hx)
  have hpk : Naming "pk".toList ("CONSTRAINT".toList ++ ([' '] ++ ("pk".toList ++ [' ']))) :=
    .mk (by simp [sameLetters]) hspace (by simp) (by simp) hspace
  have hprimary : Naming "t_primary".toList
      ("CONSTRAINT".toList ++ ([' '] ++ ("t_primary".toList ++ [' ']))) :=
    .mk (by simp [sameLetters]) hspace (by simp) (by simp) hspace
  have hsame := (columns_named hfront List.not_mem_nil hcolumn hspace.blanks hstart hlist hpk []).1
    (by decide)
  have hlost :=
    (columns_named hfront List.not_mem_nil hcolumn hspace.blanks hstart hlist hprimary []).2
      (by decide)
  exact ⟨hsame, hlost⟩

/-- The key column that the name hides no longer stands for the row id. -/
theorem columns_named_primary :
    columns "CREATE TABLE t (x INTEGER, PRIMARY KEY (x))" = .ok [⟨"x", "INTEGER", 0, true⟩] ∧
      columns "CREATE TABLE t (x INTEGER, CONSTRAINT t_primary PRIMARY KEY (x))" =
        .ok [⟨"x", "INTEGER", 0, false⟩] :=
  ⟨by decide +kernel, by decide +kernel⟩

end Named

end TableFile.Definition
