import TableFile.Definition.IndexColumn
import TableFile.Proofs.Definition.Columns
import TableFile.Proofs.Definition.Parenthesized

namespace TableFile.Definition

open Text

def indexText (front list tail : List Char) : String :=
  .ofList (front ++ '(' :: (list ++ ')' :: tail))

/-- What can stand behind the column of the leading key: blanks and further keys, or a collation or
a direction and all that follows it. -/
inductive KeyRest : List Char → Prop
  | plain {gap keys : List Char} (hgap : IsBlanks gap) (hkeys : ∀ c ∈ keys.head?, c = ',') :
      KeyRest (gap ++ keys)
  | ordered {gap word rest : List Char} {keyword : String} (hgap : IsGap gap)
      (hkeyword : keyword ∈ ["ASC", "DESC", "COLLATE"])
      (hword : sameLetters keyword.toList word) (hrest : ∀ c ∈ rest.head?, isBlank c ∨ c = ',') :
      KeyRest (gap ++ (word ++ rest))

section PlainName

variable {c : Char} {name : List Char}

theorem isLetterOrDigit_of_isBlank (h : isBlank c) : isLetterOrDigit c = false := by
  have hwide : ∀ n ∈ [0x85, 0xA0, 0x1680, 0x2000, 0x2001, 0x2002, 0x2003, 0x2004, 0x2005, 0x2006,
      0x2007, 0x2008, 0x2009, 0x200A, 0x2028, 0x2029, 0x202F, 0x205F, 0x3000],
      ((lettersAndDigits.points.takeWhile (· ≤ n)).length % 2 == 1) = false := by
    decide +kernel
  simp only [isBlank, Bool.or_eq_true, Bool.and_eq_true, decide_eq_true_eq, beq_iff_eq] at h
  rw [isLetterOrDigit]
  split
  · next hsmall =>
    by_contra hplain
    rw [Bool.not_eq_false, Char.isAlphanum, Bool.or_eq_true, isAlpha_iff, isDigit_iff] at hplain
    omega
  · next hlarge =>
    apply hwide
    simp only [List.mem_cons, List.not_mem_nil, or_false]
    omega

theorem not_mem_of_isPlainName (h : isPlainName name) (hc : isPlainName [c] = false) :
    c ∉ name := by
  intro hmem
  have hplain := List.all_eq_true.mp h c hmem
  rw [isPlainName, List.all_cons, List.all_nil, Bool.and_true, hplain] at hc
  cases hc

theorem isWord_of_isPlainName (h : isPlainName name) (hne : name ≠ []) : IsWord name := by
  refine ⟨hne, fun c hc ↦ ?_⟩
  by_contra hblank
  rw [Bool.not_eq_false] at hblank
  refine not_mem_of_isPlainName h ?_ hc
  have hline : c ≠ '_' := by
    rintro rfl
    cases hblank
  have hdollar : c ≠ '$' := by
    rintro rfl
    cases hblank
  simp [isPlainName, isLetterOrDigit_of_isBlank hblank, hline, hdollar]

theorem listMarks_not_mem (h : isPlainName name) : ∀ c ∈ listMarks, c ∉ name := by
  have hmarks : ∀ c ∈ listMarks, isPlainName [c] = false := by
    simp [listMarks, isPlainName, isLetterOrDigit]
  exact fun c hc ↦ not_mem_of_isPlainName h (hmarks c hc)

theorem startsQuoted_of_isPlainName (h : isPlainName name) : startsQuoted name = false := by
  cases name with
  | nil => rfl
  | cons c name =>
    by_contra hquoted
    obtain ⟨mark, hmark⟩ := Option.isSome_iff_exists.mp (Bool.not_eq_false _ ▸ hquoted)
    refine listMarks_not_mem h c ?_ List.mem_cons_self
    rcases eq_of_closingMark? hmark with ⟨rfl, -⟩ | ⟨rfl, -⟩ | ⟨rfl, -⟩ <;> decide

end PlainName

section FirstKey

variable {front before name item rest tail : List Char}

theorem headD_splitItems_of_comma (h : ∀ c ∈ rest.head?, c = ',') :
    (splitItems rest).headD [] = [] := by
  cases rest with
  | nil => rfl
  | cons c rest =>
    obtain rfl := h c rfl
    rfl

theorem head_blank_headD_splitItems (h : ∀ c ∈ rest.head?, isBlank c ∨ c = ',') :
    ∀ c ∈ ((splitItems rest).headD []).head?, isBlank c := by
  cases rest with
  | nil => simp [splitItems, splitFrom]
  | cons c rest =>
    rcases h c rfl with hc | rfl
    · have hblank : Closed false [c] := closed_of_isBlanks (by simpa [IsBlanks] using hc)
      rw [← List.singleton_append, headD_splitItems_append hblank]
      rintro d ⟨⟩
      exact hc
    · rw [headD_splitItems_of_comma (by simp)]
      simp

theorem isKeyword_of_ordering {keyword : String} {word : List Char}
    (hkeyword : keyword ∈ ["ASC", "DESC", "COLLATE"]) (hword : sameLetters keyword.toList word) :
    IsKeyword word := by
  have hcapitals : IsKeyword keyword.toList := by
    simp only [List.mem_cons, List.not_mem_nil, or_false] at hkeyword
    rcases hkeyword with rfl | rfl | rfl <;> exact ⟨by simp, by simp⟩
  exact hcapitals.of_sameLetters hword

theorem isOrdering_of_word {keyword : String} {gap word : List Char} (hgap : IsBlanks gap)
    (hkeyword : keyword ∈ ["ASC", "DESC", "COLLATE"]) (hword : sameLetters keyword.toList word)
    (hitem : ∀ c ∈ item.head?, isBlank c) : isOrdering (gap ++ (word ++ item)) := by
  have hisWord := (isKeyword_of_ordering hkeyword hword).isWord
  rw [isOrdering, words_blanks_append hgap, hisWord.words_append hitem, List.head?_cons,
    Option.all_some, List.any_eq_true]
  exact ⟨keyword, hkeyword, sameLetters_iff.mpr (sameLetters_iff.mp hword).symm⟩

theorem KeyRest.headD_splitItems (h : KeyRest rest) :
    (∀ c ∈ ((splitItems rest).headD []).head?, isBlank c) ∧
      isOrdering ((splitItems rest).headD []) := by
  cases h with
  | @plain gap keys hgap hkeys =>
    rw [headD_splitItems_append (closed_of_isBlanks hgap), headD_splitItems_of_comma hkeys,
      List.append_nil]
    refine ⟨fun c hc ↦ hgap c (List.mem_of_mem_head? hc), ?_⟩
    rw [isOrdering, words_eq_nil_iff.mpr hgap]
    rfl
  | @ordered gap word rest keyword hgap hkeyword hword hrest =>
    have hclosed := closed_of_isKeyword (isKeyword_of_ordering hkeyword hword) false
    rw [headD_splitItems_append (closed_of_isBlanks hgap.blanks), headD_splitItems_append hclosed]
    refine ⟨hgap.head_blank _, isOrdering_of_word hgap.blanks hkeyword hword ?_⟩
    exact head_blank_headD_splitItems hrest

theorem parenthesized?_indexText (hfront : '(' ∉ front) (hbefore : IsBlanks before)
    (hname : isPlainName name) (hbalanced : IsBalanced rest) (tail : List Char) :
    parenthesized? (indexText front (before ++ (name ++ rest)) tail).toList =
      some (before ++ (name ++ rest)) := by
  have hblanks {c : Char} (hc : isBlank c = false) : c ∉ before := hbefore.not_mem hc
  have hmarks := listMarks_not_mem hname
  rw [indexText, String.toList_ofList, parenthesized?_append hfront]
  refine parenthesizedFrom?_eq_some_iff.mpr ⟨tail, rfl, ?_⟩
  rw [balances_append_iff (hblanks rfl) (hblanks rfl),
    balances_append_iff (hmarks _ (by decide)) (hmarks _ (by decide))]
  exact hbalanced

/-- The leading key of an index on a plain name is that name, whatever follows in the list and
behind it. -/
theorem indexColumn?_indexText (hfront : '(' ∉ front) (hbefore : IsBlanks before)
    (hname : isPlainName name) (hne : name ≠ []) (hrest : KeyRest rest)
    (hbalanced : IsBalanced rest) (tail : List Char) :
    indexColumn? (indexText front (before ++ (name ++ rest)) tail) = .ok (some (.ofList name)) := by
  have hword := isWord_of_isPlainName hname hne
  have hclosed : Closed false name := .of_not_mem (listMarks_not_mem hname)
  obtain ⟨hblank, hordering⟩ := hrest.headD_splitItems
  obtain ⟨after, -, hitem, -⟩ := exists_trimEnd_append ((splitItems rest).headD [])
  have hend : ∀ c ∈ (trimEnd ((splitItems rest).headD [])).head?, isBlank c := by
    intro c hc
    apply hblank
    rw [hitem, Option.mem_def, List.head?_append, hc, Option.some_or]
  have hfirst : trim ((splitItems (before ++ (name ++ rest))).headD []) =
      name ++ trimEnd ((splitItems rest).headD []) := by
    rw [headD_splitItems_append (closed_of_isBlanks hbefore), headD_splitItems_append hclosed,
      hword.isTrimmed.trim_append hne hbefore]
  have hcut := cutName_word hword (startsQuoted_of_isPlainName hname) hend
  rw [trim_trimEnd] at hcut
  rw [isOrdering, ← words_trim, ← isOrdering] at hordering
  rw [indexColumn?, parenthesized?_indexText hfront hbefore hname hbalanced]
  simp only [hfirst, hcut, if_neg hne, hname, Bool.or_true, hordering, Bool.and_self, if_true]

end FirstKey

end TableFile.Definition
