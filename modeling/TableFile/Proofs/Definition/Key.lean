import TableFile.Proofs.Definition.Canonical
import TableFile.Proofs.Definition.ItemList
import TableFile.Proofs.Definition.Parenthesized

namespace TableFile.Definition

open Text

/-- A text that begins with a name, and the rest of it. A name that is not in quotes ends at a
blank. -/
inductive BeginsWithName : (name rest text : List Char) → Prop
  | bare {name rest : List Char} (hne : name ≠ [])
      (hplain : ∀ c ∈ name, c.isAlphanum ∨ c = '_' ∨ c = '$')
      (hrest : ∀ c ∈ rest.head?, isBlank c) : BeginsWithName name rest (name ++ rest)
  | quoted {c mark : Char} {name rest : List Char} (hmark : closingMark? c = some mark)
      (hname : mark ∉ name) : BeginsWithName name rest (c :: (name ++ mark :: rest))

inductive KeyWords : List Char → Prop
  | mk {primary gap word : List Char} (hprimary : sameLetters "PRIMARY".toList primary)
      (hgap : IsGap gap) (hword : sameLetters "KEY".toList word) :
      KeyWords (primary ++ (gap ++ word))

/-- A column of a key, which a direction or a collation may follow. Parentheses count also within
quotes here. -/
inductive KeySpelled : (name : String) → List Char → Prop
  | mk {before name rest text : List Char} (hbefore : IsBlanks before)
      (htext : BeginsWithName name rest text) (hclosed : Closed false rest)
      (hopening : '(' ∉ text) (hclosing : ')' ∉ text) : KeySpelled (.ofList name) (before ++ text)

section Name

variable {name rest text before : List Char}

theorem Closed.nested_of_not_mem {nested : Bool} {s : List Char} (h : Closed nested s)
    (hmem : ')' ∉ s) : Closed true s := by
  induction h with
  | nil => exact .nil
  | plain hquote hcomma hopening hclosing => exact .plain hquote hcomma hopening hclosing
  | comma => exact .comma
  | closing => exact absurd List.mem_cons_self hmem
  | quoted hmark hcontent => exact .quoted hmark hcontent
  | parenthesized hinner => exact .parenthesized hinner
  | append _ _ ihs iht =>
    obtain ⟨hs, ht⟩ := not_or.mp (List.mem_append.not.mp hmem)
    exact (ihs hs).append (iht ht)

namespace BeginsWithName

theorem cutName_eq (h : BeginsWithName name rest text) : cutName text = (name, trim rest) := by
  cases h with
  | bare hne hplain hrest => exact cutName_plain hne hplain hrest
  | quoted hmark hname => exact cutName_quoted hmark hname rest

theorem ne_nil (h : BeginsWithName name rest text) : text ≠ [] := by
  cases h with
  | bare hne => exact List.append_ne_nil_of_left_ne_nil hne _
  | quoted => exact List.cons_ne_nil _ _

theorem closed {nested : Bool} (h : BeginsWithName name rest text) (hrest : Closed nested rest) :
    Closed nested text := by
  cases h with
  | bare hne hplain => exact (closed_of_plain hplain nested).append hrest
  | @quoted c mark _ _ hmark hname =>
    have hquoted : Closed nested (c :: (name ++ [mark])) :=
      .quoted (quoteEnd?_of_closingMark? hmark) hname
    have hassoc : c :: (name ++ mark :: rest) = c :: (name ++ [mark]) ++ rest := by
      rw [List.cons_append, List.append_assoc, List.singleton_append]
    rw [hassoc]
    exact hquoted.append hrest

theorem isConstraint_eq_false (h : BeginsWithName name rest text)
    (hname : startsQuoted text ∨
      ∀ keyword ∈ ["CONSTRAINT", "CHECK", "UNIQUE", "FOREIGN", "PRIMARY"],
        sameLetters keyword.toList name = false) : isConstraint text = false := by
  cases h with
  | bare hne hplain hrest =>
    rcases hname with hquoted | hkeyword
    · obtain ⟨c, name, rfl⟩ := List.exists_cons_of_ne_nil hne
      rw [startsQuoted, List.cons_append, List.head?_cons, Option.any_some,
        closingMark?_of_plain hplain c List.mem_cons_self] at hquoted
      cases hquoted
    · exact isConstraint_bare ⟨hne, hplain, hkeyword⟩ hrest
  | quoted hmark => exact isConstraint_quoted hmark _

theorem trim_append (h : BeginsWithName name rest text) (hbefore : IsBlanks before) :
    BeginsWithName name (trimEnd rest) (trim (before ++ text)) := by
  cases h with
  | bare hne hplain hrest =>
    have htrim := (isWord_of_plain hplain hne).isTrimmed.trim_append hne hbefore rest
    rw [htrim]
    refine .bare hne hplain fun c hc ↦ ?_
    obtain ⟨after, -, happend, -⟩ := exists_trimEnd_append rest
    apply hrest c
    rw [happend, List.head?_append, Option.mem_def.mp hc]
    exact rfl
  | @quoted c mark _ _ hmark hname =>
    have hspelled : NameSpelled name (c :: (name ++ [mark])) := .quoted hmark hname
    have htrimmed : IsTrimmed (c :: (name ++ [mark])) :=
      ⟨hspelled.head_not_blank, hspelled.getLast_not_blank⟩
    have htrim := htrimmed.trim_append (List.cons_ne_nil _ _) hbefore rest
    simp only [List.cons_append, List.append_assoc, List.nil_append] at htrim
    rw [htrim]
    exact .quoted hmark hname

end BeginsWithName

end Name

namespace KeySpelled

variable {name : String} {text : List Char}

theorem not_mem_parentheses (h : KeySpelled name text) : '(' ∉ text ∧ ')' ∉ text := by
  obtain ⟨hbefore, htext, hclosed, hopening, hclosing⟩ := h
  simp only [List.mem_append, not_or]
  exact ⟨⟨hbefore.not_mem rfl, hopening⟩, hbefore.not_mem rfl, hclosing⟩

theorem closed (h : KeySpelled name text) : Closed false text := by
  obtain ⟨hbefore, htext, hclosed, -, -⟩ := h
  exact (closed_of_isBlanks hbefore).append (htext.closed hclosed)

theorem cutName_eq (h : KeySpelled name text) : (cutName (trim text)).1 = name.toList := by
  obtain ⟨hbefore, htext, -, -, -⟩ := h
  rw [(htext.trim_append hbefore).cutName_eq, String.toList_ofList]

end KeySpelled

section KeyList

variable {names : List String} {texts : List (List Char)}

theorem not_mem_intercalate {c : Char} (hc : c ≠ ',') (h : ∀ text ∈ texts, c ∉ text) :
    c ∉ [','].intercalate texts := by
  induction texts with
  | nil => exact List.not_mem_nil
  | cons text texts ih =>
    obtain ⟨htext, htexts⟩ := List.forall_mem_cons.mp h
    cases texts with
    | nil => rwa [List.intercalate_singleton]
    | cons next texts =>
      rw [List.intercalate_cons_cons, List.mem_append, List.mem_append, List.mem_singleton, not_or,
        not_or]
      exact ⟨⟨htext, hc⟩, ih htexts⟩

theorem closed_intercalate (h : ∀ text ∈ texts, Closed true text) :
    Closed true ([','].intercalate texts) := by
  induction texts with
  | nil => exact .nil
  | cons text texts ih =>
    obtain ⟨htext, htexts⟩ := List.forall_mem_cons.mp h
    cases texts with
    | nil => rwa [List.intercalate_singleton]
    | cons next texts =>
      rw [List.intercalate_cons_cons]
      exact (htext.append .comma).append (ih htexts)

theorem forall_of_keys (h : List.Forall₂ KeySpelled names texts) :
    ∀ text ∈ texts, '(' ∉ text ∧ ')' ∉ text ∧ Closed false text := by
  induction h with
  | nil => exact List.forall_mem_nil _
  | cons hkey _ ih =>
    obtain ⟨hopening, hclosing⟩ := hkey.not_mem_parentheses
    exact List.forall_mem_cons.mpr ⟨⟨hopening, hclosing, hkey.closed⟩, ih⟩

theorem map_cutName_of_keys (h : List.Forall₂ KeySpelled names texts) :
    texts.map (fun text ↦ (cutName (trim text)).1) = names.map String.toList := by
  induction h with
  | nil => rfl
  | cons hkey _ ih => rw [List.map_cons, List.map_cons, hkey.cutName_eq, ih]

theorem isBalanced_of_not_mem {s : List Char} (hopening : '(' ∉ s) (hclosing : ')' ∉ s) :
    IsBalanced s := by
  have hcount {t : List Char} (ht : t <+: s) : t.count ')' = 0 :=
    List.count_eq_zero.mpr fun hmem ↦ hclosing (ht.subset hmem)
  refine ⟨?_, ?_⟩
  · rw [hcount List.prefix_rfl, List.count_eq_zero.mpr hopening]
  · intro t ht
    rw [hcount ht]
    exact Nat.zero_le _

end KeyList

namespace KeyWords

variable {start : List Char}

theorem isKeyword (h : KeyWords start) : ∃ primary gap word, IsKeyword primary ∧ IsGap gap ∧
    IsKeyword word ∧ start = primary ++ (gap ++ word) := by
  obtain @⟨primary, gap, word, hprimary, hgap, hword⟩ := h
  have hprimary := IsKeyword.of_sameLetters ⟨by simp, by simp⟩ hprimary
  have hword := IsKeyword.of_sameLetters ⟨by simp, by simp⟩ hword
  exact ⟨primary, gap, word, hprimary, hgap, hword, rfl⟩

theorem isTrimmed (h : KeyWords start) : IsTrimmed start := by
  obtain ⟨primary, gap, word, hprimary, -, hword, rfl⟩ := h.isKeyword
  exact hprimary.isWord.isTrimmed.append hprimary.ne_nil gap hword.isWord.isTrimmed hword.ne_nil

theorem ne_nil (h : KeyWords start) : start ≠ [] := by
  obtain ⟨primary, gap, word, hprimary, -, -, rfl⟩ := h.isKeyword
  exact List.append_ne_nil_of_left_ne_nil hprimary.ne_nil _

theorem isConstraint_append (h : KeyWords start) (rest : List Char) :
    isConstraint (start ++ rest) := by
  obtain @⟨primary, gap, word, hprimary, hgap, hword⟩ := h
  obtain ⟨hprimary, hfirst⟩ := isWord_and_upper_eq (by simp) hprimary
  obtain ⟨hword, hsecond⟩ := isWord_and_upper_eq (by simp) hword
  have hwords : words ((primary ++ (gap ++ word)) ++ rest) =
      primary :: (word ++ rest.takeWhile (!isBlank ·)) :: words (rest.dropWhile (!isBlank ·)) := by
    rw [List.append_assoc, List.append_assoc, hprimary.words_append (hgap.head_blank _),
      words_blanks_append hgap.blanks, hword.words_append_eq]
  refine isConstraint_of_primary hwords hfirst ?_
  rw [upper_append, hsecond]
  exact List.prefix_append _ _

theorem fromWord?_append (h : KeyWords start) (rest : List Char) :
    fromWord? "PRIMARY".toList (start ++ rest) = some (start ++ rest) := by
  obtain ⟨hprimary, hgap, hword⟩ := h
  rw [List.append_assoc]
  exact fromWord?_of_sameLetters ⟨by simp, by simp⟩ hprimary _

theorem canonical_append (h : KeyWords start) {blanks : List Char} (hblanks : IsBlanks blanks) :
    canonical (start ++ blanks) = "PRIMARY KEY".toList := by
  obtain ⟨hprimary, hgap, hword⟩ := h
  obtain ⟨hprimary, hfirst⟩ := isWord_and_upper_eq (by simp) hprimary
  obtain ⟨hword, hsecond⟩ := isWord_and_upper_eq (by simp) hword
  rw [List.append_assoc, List.append_assoc, canonical_pair hprimary hgap hword hblanks, hfirst,
    hsecond]
  rfl

theorem opening_not_mem (h : KeyWords start) : '(' ∉ start := by
  obtain ⟨primary, gap, word, hprimary, hgap, hword, rfl⟩ := h.isKeyword
  have hletters {word : List Char} (hword : IsKeyword word) : '(' ∉ word :=
    fun hmem ↦ Bool.false_ne_true (hword.isAlpha '(' hmem)
  simp only [List.mem_append, not_or]
  exact ⟨hletters hprimary, hgap.blanks.not_mem rfl, hletters hword⟩

theorem closed (h : KeyWords start) : Closed false start := by
  obtain ⟨primary, gap, word, hprimary, hgap, hword, rfl⟩ := h.isKeyword
  exact (closed_of_isKeyword hprimary false).append
    ((closed_of_isBlanks hgap.blanks).append (closed_of_isKeyword hword false))

end KeyWords

section PrimaryKey

variable {start gap : List Char} {names : List String} {texts : List (List Char)}

theorem primaryKey?_of_fromWord? {item key : List Char}
    (h : fromWord? "PRIMARY".toList item = some key) : primaryKey? item =
      if sameLetters (canonical (key.takeWhile (· ≠ '('))) "PRIMARY KEY".toList then
        (parenthesized? key).map fun list ↦
          (splitItems list).map fun item ↦ (cutName (trim item)).1
      else none := by
  rw [primaryKey?, h]
  simp only [Option.bind_eq_bind, Option.bind_some]
  split
  · cases parenthesized? key <;> rfl
  · rfl

/-- A key is read as its columns in order, and what follows its list has no part in that. -/
theorem primaryKey?_of_keys (hstart : KeyWords start) (hgap : IsBlanks gap)
    (hkeys : List.Forall₂ KeySpelled names texts) (hne : names ≠ []) (rest : List Char) :
    primaryKey? (start ++ (gap ++ '(' :: ([','].intercalate texts ++ ')' :: rest))) =
      some (names.map String.toList) := by
  have hopening : '(' ∉ start ++ gap := by
    rw [List.mem_append, not_or]
    exact ⟨hstart.opening_not_mem, hgap.not_mem rfl⟩
  have hsplit : start ++ (gap ++ '(' :: ([','].intercalate texts ++ ')' :: rest)) =
      (start ++ gap) ++ '(' :: ([','].intercalate texts ++ ')' :: rest) :=
    (List.append_assoc ..).symm
  have hlist : parenthesizedFrom? 0 ([','].intercalate texts ++ ')' :: rest) =
      some ([','].intercalate texts) := by
    have hbalanced : IsBalanced ([','].intercalate texts) :=
      isBalanced_of_not_mem
        (not_mem_intercalate (by decide) fun text htext ↦ (forall_of_keys hkeys text htext).1)
        (not_mem_intercalate (by decide) fun text htext ↦ (forall_of_keys hkeys text htext).2.1)
    exact parenthesizedFrom?_eq_some_iff.mpr ⟨rest, rfl, hbalanced⟩
  have htexts : texts ≠ [] := by
    rintro rfl
    exact hne (List.forall₂_nil_right_iff.mp hkeys)
  have hitems : splitItems ([','].intercalate texts) = texts :=
    splitItems_intercalate htexts fun text htext ↦ (forall_of_keys hkeys text htext).2.2
  rw [primaryKey?_of_fromWord? (hstart.fromWord?_append _), hsplit, takeWhile_ne hopening,
    hstart.canonical_append hgap, parenthesized?_append hopening, hlist, Option.map_some, hitems,
    map_cutName_of_keys hkeys, if_pos (by decide)]

end PrimaryKey

end TableFile.Definition
