import TableFile.Definition.Item
import TableFile.Proofs.Definition.Nesting
import TableFile.Proofs.Text.Keyword

namespace TableFile.Definition

open Text

structure IsBareName (name : List Char) : Prop where
  ne_nil : name ≠ []
  plain : ∀ c ∈ name, c.isAlphanum ∨ c = '_' ∨ c = '$'
  not_constraint : ∀ keyword ∈ ["CONSTRAINT", "CHECK", "UNIQUE", "FOREIGN", "PRIMARY"],
    sameLetters keyword.toList name = false

/-- The ways to write a name. In quotes it can be any text without the closing mark. -/
inductive NameSpelled : (name text : List Char) → Prop
  | bare {name : List Char} (hname : IsBareName name) : NameSpelled name name
  | quoted {c mark : Char} {name : List Char} (hmark : closingMark? c = some mark)
      (hname : mark ∉ name) : NameSpelled name (c :: (name ++ [mark]))

inductive ConstraintSpelled : List Char → Prop
  | word {keyword : String} {word rest : List Char}
      (hkeyword : keyword ∈ ["CONSTRAINT", "CHECK", "UNIQUE"])
      (hword : sameLetters keyword.toList word)
      (hrest : ∀ c ∈ rest.head?, isBlank c ∨ c = '(') : ConstraintSpelled (word ++ rest)
  | key {keyword : String} {word gap key rest : List Char}
      (hkeyword : keyword ∈ ["FOREIGN", "PRIMARY"]) (hword : sameLetters keyword.toList word)
      (hgap : IsGap gap) (hkey : sameLetters "KEY".toList key)
      (hrest : ∀ c ∈ rest.head?, isBlank c ∨ c = '(') :
      ConstraintSpelled (word ++ (gap ++ (key ++ rest)))

section Name

variable {name text rest : List Char} {c mark : Char}

theorem toNat_of_plain (h : c.isAlphanum ∨ c = '_' ∨ c = '$') : 32 < c.toNat ∧ c.toNat < 128 := by
  rcases h with h | rfl | rfl
  · rw [Char.isAlphanum, Bool.or_eq_true, isAlpha_iff, isDigit_iff] at h
    omega
  · decide
  · decide

section Plain

variable (hplain : ∀ c ∈ name, c.isAlphanum ∨ c = '_' ∨ c = '$')
include hplain

theorem isWord_of_plain (hne : name ≠ []) : IsWord name := by
  refine ⟨hne, fun c hc ↦ ?_⟩
  have hc := toNat_of_plain (hplain c hc)
  simp only [isBlank, Bool.or_eq_false_iff, Bool.and_eq_false_iff, decide_eq_false_iff_not,
    beq_eq_false_iff_ne]
  omega

theorem not_mem_of_plain {d : Char} (hd : ¬(d.isAlphanum ∨ d = '_' ∨ d = '$')) : d ∉ name :=
  fun hmem ↦ hd (hplain d hmem)

theorem closingMark?_of_plain : ∀ c ∈ name, closingMark? c = none := by
  intro c hc
  rw [Option.eq_none_iff_forall_ne_some]
  intro mark hmark
  rcases eq_of_closingMark? hmark with ⟨rfl, -⟩ | ⟨rfl, -⟩ | ⟨rfl, -⟩ <;>
    exact not_mem_of_plain hplain (by decide) hc

theorem closed_of_plain (nested : Bool) : Closed nested name := by
  have hmarks : ∀ c ∈ listMarks, ¬(c.isAlphanum ∨ c = '_' ∨ c = '$') := by simp [listMarks]
  exact .of_not_mem fun c hc ↦ not_mem_of_plain hplain (hmarks c hc)

end Plain

theorem closed_of_isKeyword {word : List Char} (h : IsKeyword word) (nested : Bool) :
    Closed nested word := by
  apply closed_of_plain
  intro c hc
  rw [Char.isAlphanum, h.isAlpha c hc, Bool.true_or]
  exact .inl rfl

namespace IsBareName

variable (h : IsBareName name)
include h

theorem isWord : IsWord name :=
  isWord_of_plain h.plain h.ne_nil

theorem not_mem {d : Char} (hd : ¬(d.isAlphanum ∨ d = '_' ∨ d = '$')) : d ∉ name :=
  not_mem_of_plain h.plain hd

theorem closed (nested : Bool) : Closed nested name :=
  closed_of_plain h.plain nested

end IsBareName

theorem NameSpelled.ne_nil (h : NameSpelled name text) : text ≠ [] := by
  cases h with
  | bare hname => exact hname.ne_nil
  | quoted => exact List.cons_ne_nil _ _

theorem NameSpelled.head_not_blank (h : NameSpelled name text) :
    ∀ c ∈ text.head?, isBlank c = false := by
  cases h with
  | bare hname => exact hname.isWord.head_not_blank
  | quoted hmark =>
    rintro c ⟨⟩
    rcases eq_of_closingMark? hmark with ⟨rfl, -⟩ | ⟨rfl, -⟩ | ⟨rfl, -⟩ <;> rfl

theorem NameSpelled.getLast_not_blank (h : NameSpelled name text) :
    ∀ c ∈ text.getLast?, isBlank c = false := by
  cases h with
  | bare hname => exact hname.isWord.getLast_not_blank
  | quoted hmark =>
    rw [← List.cons_append, List.getLast?_concat]
    rintro c ⟨⟩
    rcases eq_of_closingMark? hmark with ⟨-, rfl⟩ | ⟨-, rfl⟩ | ⟨-, rfl⟩ <;> rfl

theorem NameSpelled.closed (h : NameSpelled name text) (nested : Bool) : Closed nested text := by
  cases h with
  | bare hname => exact hname.closed nested
  | quoted hmark hname => exact .quoted (quoteEnd?_of_closingMark? hmark) hname

theorem cutName_word (hword : IsWord name) (hquoted : startsQuoted name = false)
    (hrest : ∀ c ∈ rest.head?, isBlank c) : cutName (name ++ rest) = (name, trim rest) := by
  have hname : quotedName? (name ++ rest) = none := by
    obtain ⟨c, name', rfl⟩ := List.exists_cons_of_ne_nil hword.ne_nil
    have hmark : closingMark? c = none := by simpa [startsQuoted] using hquoted
    rw [List.cons_append, quotedName?, hmark]
    rfl
  have hfront : ∀ c ∈ name, (!isBlank c) = true := by
    intro c hc
    rw [hword.not_blank c hc, Bool.not_false]
  have hstop : ∀ c ∈ rest.head?, (!isBlank c) = false := by
    intro c hc
    rw [hrest c hc, Bool.not_true]
  rw [cutName, hname]
  simp only [takeWhile_append_eq hfront hstop, dropWhile_append_eq hfront hstop]

theorem cutName_plain (hne : name ≠ []) (hplain : ∀ c ∈ name, c.isAlphanum ∨ c = '_' ∨ c = '$')
    (hrest : ∀ c ∈ rest.head?, isBlank c) : cutName (name ++ rest) = (name, trim rest) := by
  have hquoted : startsQuoted name = false := by
    obtain ⟨c, name', rfl⟩ := List.exists_cons_of_ne_nil hne
    have hmark := closingMark?_of_plain hplain c List.mem_cons_self
    simpa [startsQuoted] using hmark
  exact cutName_word (isWord_of_plain hplain hne) hquoted hrest

theorem cutName_quoted (hmark : closingMark? c = some mark) (hname : mark ∉ name)
    (rest : List Char) : cutName (c :: (name ++ mark :: rest)) = (name, trim rest) := by
  have hquoted : quotedName? (c :: (name ++ mark :: rest)) = some (name, rest) := by
    rw [quotedName?, hmark]
    simp only [Option.bind_some, takeWhile_ne hname, dropWhile_ne hname]
  rw [cutName, hquoted]

theorem cutName_of_spelled (h : NameSpelled name text) (hrest : ∀ c ∈ rest.head?, isBlank c) :
    cutName (text ++ rest) = (name, trim rest) := by
  cases h with
  | bare hname => exact cutName_plain hname.ne_nil hname.plain hrest
  | @quoted c mark _ hmark hname =>
    rw [List.cons_append, List.append_assoc, List.singleton_append]
    exact cutName_quoted hmark hname rest

end Name

section Constraint

variable {item first second text rest : List Char} {others : List (List Char)} {keyword : String}

theorem isConstraint_eq_false (hitem : words item = first :: others)
    (hfirst : ∀ keyword ∈ ["CONSTRAINT", "CHECK", "UNIQUE", "FOREIGN", "PRIMARY"],
      upper first ≠ keyword.toList ∧ ¬ keyword.toList ++ ['('] <+: upper first) :
    isConstraint item = false := by
  have hprimary : upper first ≠ "PRIMARY".toList := (hfirst "PRIMARY" (by simp)).1
  rw [isConstraint, hitem]
  simp only [List.map_cons, if_neg hprimary, List.any_eq_false, Bool.or_eq_true,
    decide_eq_true_eq, List.isPrefixOf_iff_prefix, not_or]
  intro keyword hkeyword
  exact hfirst keyword (List.mem_append_left ["PRIMARY"] hkeyword)

theorem isConstraint_of_word (hitem : words item = first :: others)
    (hkeyword : keyword ∈ constraintWords)
    (hfirst : upper first = keyword.toList ∨ keyword.toList ++ ['('] <+: upper first) :
    isConstraint item := by
  have hprimary : upper first ≠ "PRIMARY".toList := by
    intro hprimary
    rw [hprimary] at hfirst
    revert keyword
    decide
  rw [isConstraint, hitem]
  simp only [List.map_cons, if_neg hprimary, List.any_eq_true, Bool.or_eq_true,
    decide_eq_true_eq, List.isPrefixOf_iff_prefix]
  exact ⟨keyword, hkeyword, hfirst⟩

theorem isConstraint_of_primary (hitem : words item = first :: second :: others)
    (hfirst : upper first = "PRIMARY".toList) (hsecond : "KEY".toList <+: upper second) :
    isConstraint item := by
  rw [isConstraint, hitem]
  simp only [List.map_cons, if_pos hfirst, List.head?_cons, Option.any_some,
    List.isPrefixOf_iff_prefix]
  exact hsecond

theorem ne_nil_of_isConstraint (h : isConstraint item) : item ≠ [] := by
  rintro rfl
  cases h

theorem isConstraint_trim_append {before after : List Char} (hbefore : IsBlanks before)
    (text : List Char) (hafter : IsBlanks after) :
    isConstraint (trim (before ++ (text ++ after))) = isConstraint text := by
  rw [isConstraint, isConstraint, words_trim_append hbefore text hafter]

theorem isConstraint_trim_blanks_append {before : List Char} (hbefore : IsBlanks before)
    (text : List Char) : isConstraint (trim (before ++ text)) = isConstraint text := by
  have happend := isConstraint_trim_append hbefore text IsBlanks.nil
  rwa [List.append_nil] at happend

theorem isConstraint_bare {name : List Char} (hname : IsBareName name)
    (hrest : ∀ c ∈ rest.head?, isBlank c) : isConstraint (name ++ rest) = false := by
  have hascii : ∀ c ∈ name, c.toNat < 128 := fun c hc ↦ (toNat_of_plain (hname.plain c hc)).2
  have hopening : '(' ∉ upper name := by
    rw [upper_of_forall_lt hascii]
    intro hmem
    obtain ⟨c, hc, hupper⟩ := List.mem_map.mp hmem
    obtain rfl := (toUpper_eq_iff (by decide)).mp hupper
    exact hname.not_mem (by decide) hc
  refine isConstraint_eq_false (hname.isWord.words_append hrest) fun keyword hkeyword ↦ ⟨?_, ?_⟩
  · intro hupper
    have hsame := sameLetters_of_upper_eq hascii hupper
    rw [hname.not_constraint keyword hkeyword] at hsame
    cases hsame
  · intro hbegins
    exact hopening (hbegins.subset (by simp))

theorem isConstraint_quoted {c mark : Char} (hmark : closingMark? c = some mark)
    (rest : List Char) : isConstraint (c :: rest) = false := by
  obtain ⟨hword, halpha, hcapitals⟩ :
      IsWord [c] ∧ c.isAlpha = false ∧ capitals c = [c] := by
    rcases eq_of_closingMark? hmark with ⟨rfl, -⟩ | ⟨rfl, -⟩ | ⟨rfl, -⟩ <;>
      exact ⟨⟨List.cons_ne_nil _ _, by simp [isBlank]⟩, rfl, rfl⟩
  have hletter {keyword : List Char} (hkeyword : IsKeyword keyword) {s t : List Char}
      (heq : keyword ++ s = upper (c :: t)) : False := by
    obtain ⟨d, keyword, rfl⟩ := List.exists_cons_of_ne_nil hkeyword.ne_nil
    rw [upper, List.flatMap_cons, hcapitals] at heq
    obtain ⟨rfl, -⟩ := List.cons.inj heq
    rw [hkeyword.isAlpha d List.mem_cons_self] at halpha
    cases halpha
  refine isConstraint_eq_false (hword.words_append_eq rest) fun keyword hkeyword ↦ ?_
  have hkeyword : IsKeyword keyword.toList := by
    simp only [List.mem_cons, List.not_mem_nil, or_false] at hkeyword
    rcases hkeyword with rfl | rfl | rfl | rfl | rfl <;> exact ⟨by simp, by simp⟩
  constructor
  · intro hupper
    exact hletter hkeyword ((List.append_nil _).trans hupper.symm)
  · rintro ⟨t, hupper⟩
    exact hletter hkeyword ((List.append_assoc ..).symm.trans hupper)

theorem NameSpelled.isConstraint_append {name : List Char} (h : NameSpelled name text)
    (hrest : ∀ c ∈ rest.head?, isBlank c) : isConstraint (text ++ rest) = false := by
  cases h with
  | bare hname => exact isConstraint_bare hname hrest
  | quoted hmark => exact isConstraint_quoted hmark _

/-- What stands right behind a word is part of the first word only if it opens a parenthesis. -/
theorem upper_append_takeWhile (word : List Char)
    (hrest : ∀ c ∈ rest.head?, isBlank c ∨ c = '(') :
    upper (word ++ rest.takeWhile (!isBlank ·)) = upper word ∨
      upper word ++ ['('] <+: upper (word ++ rest.takeWhile (!isBlank ·)) := by
  rw [upper_append]
  cases rest with
  | nil => exact .inl (List.append_nil _)
  | cons c rest =>
    rcases hrest c rfl with hc | rfl
    · rw [List.takeWhile_cons_of_neg (by simp [hc])]
      exact .inl (List.append_nil _)
    · refine .inr ⟨upper (rest.takeWhile (!isBlank ·)), ?_⟩
      rw [List.takeWhile_cons_of_pos (by simp [isBlank]), List.append_assoc]
      rfl

theorem keyword_isUpper
    (h : keyword ∈ ["CONSTRAINT", "CHECK", "UNIQUE", "FOREIGN", "PRIMARY", "KEY"]) :
    keyword.toList ≠ [] ∧ ∀ c ∈ keyword.toList, c.isUpper := by
  simp only [List.mem_cons, List.not_mem_nil, or_false] at h
  rcases h with rfl | rfl | rfl | rfl | rfl | rfl <;> exact ⟨by simp, by simp [Char.isUpper]⟩

theorem isWord_and_upper_eq_of_isUpper {capitals word : List Char} (hne : capitals ≠ [])
    (hupper : ∀ c ∈ capitals, c.isUpper) (hword : sameLetters capitals word) :
    IsWord word ∧ upper word = capitals := by
  have hkeyword : IsKeyword capitals := by
    refine ⟨hne, fun c hc ↦ ?_⟩
    rw [Char.isAlpha, hupper c hc, Bool.true_or]
  exact ⟨(hkeyword.of_sameLetters hword).isWord, upper_eq_of_sameLetters hupper hword⟩

theorem isWord_and_upper_eq {word : List Char}
    (h : keyword ∈ ["CONSTRAINT", "CHECK", "UNIQUE", "FOREIGN", "PRIMARY", "KEY"])
    (hword : sameLetters keyword.toList word) : IsWord word ∧ upper word = keyword.toList := by
  obtain ⟨hne, hupper⟩ := keyword_isUpper h
  exact isWord_and_upper_eq_of_isUpper hne hupper hword

theorem ConstraintSpelled.isConstraint (h : ConstraintSpelled text) : isConstraint text := by
  cases h with
  | @word keyword word rest hkeyword hword hrest =>
    obtain ⟨hisWord, hupper⟩ :=
      isWord_and_upper_eq (List.mem_append_left ["FOREIGN", "PRIMARY", "KEY"] hkeyword) hword
    have hfirst := upper_append_takeWhile word hrest
    rw [hupper] at hfirst
    exact isConstraint_of_word (hisWord.words_append_eq rest)
      (List.mem_append_left ["FOREIGN"] hkeyword) hfirst
  | @key keyword word gap key rest hkeyword hword hgap hkey hrest =>
    have hmem : keyword ∈ ["CONSTRAINT", "CHECK", "UNIQUE", "FOREIGN", "PRIMARY", "KEY"] := by
      simp only [List.mem_cons, List.not_mem_nil, or_false] at hkeyword ⊢
      tauto
    obtain ⟨hisWord, hupper⟩ := isWord_and_upper_eq hmem hword
    obtain ⟨hisKey, hupper'⟩ := isWord_and_upper_eq (by simp) hkey
    have hwords : words (word ++ (gap ++ (key ++ rest))) =
        word :: (key ++ rest.takeWhile (!isBlank ·)) :: words (rest.dropWhile (!isBlank ·)) := by
      rw [hisWord.words_append (hgap.head_blank _), words_blanks_append hgap.blanks,
        hisKey.words_append_eq]
    simp only [List.mem_cons, List.not_mem_nil, or_false] at hkeyword
    rcases hkeyword with rfl | rfl
    · exact isConstraint_of_word hwords (by simp [constraintWords]) (.inl hupper)
    · refine isConstraint_of_primary hwords hupper ?_
      rw [upper_append, hupper']
      exact List.prefix_append _ _

end Constraint

end TableFile.Definition
