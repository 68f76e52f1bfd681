import TableFile.Proofs.Text.Cut
import TableFile.Text.Blank

namespace TableFile.Text

def IsBlanks (s : List Char) : Prop :=
  ∀ c ∈ s, isBlank c

structure IsWord (s : List Char) : Prop where
  ne_nil : s ≠ []
  not_blank : ∀ c ∈ s, isBlank c = false

structure IsGap (s : List Char) : Prop where
  ne_nil : s ≠ []
  blanks : IsBlanks s

structure IsTrimmed (s : List Char) : Prop where
  head_not_blank : ∀ c ∈ s.head?, isBlank c = false
  getLast_not_blank : ∀ c ∈ s.getLast?, isBlank c = false

theorem IsGap.head_blank {s : List Char} (h : IsGap s) (t : List Char) :
    ∀ c ∈ (s ++ t).head?, isBlank c := by
  obtain ⟨c, s, rfl⟩ := List.exists_cons_of_ne_nil h.ne_nil
  intro d hd
  obtain rfl : c = d := Option.some.inj hd
  exact h.blanks c List.mem_cons_self

theorem IsBlanks.nil : IsBlanks [] :=
  List.forall_mem_nil _

theorem IsBlanks.singleton {c : Char} (hc : isBlank c) : IsBlanks [c] :=
  List.forall_mem_singleton.mpr hc

theorem IsGap.singleton {c : Char} (hc : isBlank c) : IsGap [c] :=
  ⟨List.cons_ne_nil c [], .singleton hc⟩

theorem IsBlanks.append {s t : List Char} (hs : IsBlanks s) (ht : IsBlanks t) :
    IsBlanks (s ++ t) :=
  List.forall_mem_append.mpr ⟨hs, ht⟩

theorem IsBlanks.not_mem {s : List Char} (h : IsBlanks s) {c : Char} (hc : isBlank c = false) :
    c ∉ s :=
  fun hmem ↦ Bool.false_ne_true (hc.symm.trans (h c hmem))

theorem isBlanks_iff_any {s : List Char} : IsBlanks s ↔ s.any (!isBlank ·) = false := by
  simp [IsBlanks]

theorem head?_append_of_ne_nil {s : List Char} (h : s ≠ []) (t : List Char) :
    (s ++ t).head? = s.head? := by
  rw [List.head?_append, List.head?_eq_some_head h, Option.some_or]

theorem getLast?_append_of_ne_nil {t : List Char} (s : List Char) (h : t ≠ []) :
    (s ++ t).getLast? = t.getLast? := by
  rw [List.getLast?_append, List.getLast?_eq_some_getLast h, Option.some_or]

section Trim

variable {before s after : List Char}

theorem trimStart_append (h : IsBlanks before) (s : List Char) :
    trimStart (before ++ s) = trimStart s :=
  List.dropWhile_append_of_pos h

theorem trimEnd_append (s : List Char) (h : IsBlanks after) : trimEnd (s ++ after) = trimEnd s := by
  rw [trimEnd, dropWhile_reverse_append s h, trimEnd]

theorem trim_append (hbefore : IsBlanks before) (s : List Char) (hafter : IsBlanks after) :
    trim (before ++ (s ++ after)) = trim s := by
  rw [trim, trimStart_append hbefore, trim, trimStart, List.dropWhile_append]
  split
  · next hs =>
    rw [List.dropWhile_eq_nil_iff.mpr hafter, trimStart, List.isEmpty_iff.mp hs]
  · exact trimEnd_append _ hafter

theorem trim_blanks_append (hbefore : IsBlanks before) (s : List Char) :
    trim (before ++ s) = trim s := by
  rw [trim, trimStart_append hbefore, trim]

theorem trim_append_blanks (s : List Char) (hafter : IsBlanks after) : trim (s ++ after) = trim s :=
  trim_append IsBlanks.nil s hafter

theorem trimStart_eq_self (h : ∀ c ∈ s.head?, isBlank c = false) : trimStart s = s :=
  dropWhile_eq_self h

theorem trimEnd_eq_self (h : ∀ c ∈ s.getLast?, isBlank c = false) : trimEnd s = s := by
  rw [trimEnd, dropWhile_reverse_eq_self h, List.reverse_reverse]

theorem trim_eq_self (hhead : ∀ c ∈ s.head?, isBlank c = false)
    (hlast : ∀ c ∈ s.getLast?, isBlank c = false) : trim s = s := by
  rw [trim, trimStart_eq_self hhead, trimEnd_eq_self hlast]

/-- Blanks between two texts stay, but with nothing behind them they are dropped. -/
theorem exists_trim_append_gap {gap tail : List Char} (hne : s ≠ [])
    (hhead : ∀ c ∈ s.head?, isBlank c = false) (hlast : ∀ c ∈ s.getLast?, isBlank c = false)
    (htail : ∀ c ∈ tail.getLast?, isBlank c = false) (hbefore : IsBlanks before)
    (hgap : IsBlanks gap) (hafter : IsBlanks after) :
    ∃ gap', IsBlanks gap' ∧ (tail ≠ [] → gap' = gap) ∧
      trim (before ++ ((s ++ (gap ++ tail)) ++ after)) = s ++ (gap' ++ tail) := by
  rw [trim_append hbefore _ hafter]
  by_cases hnil : tail = []
  · subst hnil
    refine ⟨[], IsBlanks.nil, fun h ↦ absurd rfl h, ?_⟩
    rw [List.append_nil, trim_append_blanks s hgap, trim_eq_self hhead hlast, List.append_nil,
      List.append_nil]
  · refine ⟨gap, hgap, fun _ ↦ rfl, trim_eq_self ?_ ?_⟩
    · rwa [head?_append_of_ne_nil hne]
    · rwa [← List.append_assoc, getLast?_append_of_ne_nil _ hnil]

theorem getLast?_trim (s : List Char) : ∀ c ∈ (trim s).getLast?, isBlank c = false := by
  obtain ⟨front, after, hfront, -, -, hstop⟩ :=
    exists_dropWhile_reverse_append isBlank (trimStart s)
  rw [trim, trimEnd, hfront]
  exact hstop

theorem isTrimmed_trim (s : List Char) : IsTrimmed (trim s) := by
  refine ⟨?_, getLast?_trim s⟩
  obtain ⟨front, after, hfront, hs, -, -⟩ := exists_dropWhile_reverse_append isBlank (trimStart s)
  have hstop := List.head?_dropWhile_not isBlank s
  rw [← trimStart, hs] at hstop
  intro c hc
  rw [trim, trimEnd, hfront, Option.mem_def] at hc
  rw [List.head?_append, hc] at hstop
  exact hstop

theorem IsTrimmed.trim_eq (h : IsTrimmed s) : trim s = s :=
  trim_eq_self h.head_not_blank h.getLast_not_blank

theorem exists_trimEnd_append (s : List Char) :
    ∃ after, IsBlanks after ∧ s = trimEnd s ++ after ∧
      ∀ c ∈ (trimEnd s).getLast?, isBlank c = false := by
  obtain ⟨front, after, hfront, hs, hafter, hstop⟩ := exists_dropWhile_reverse_append isBlank s
  rw [trimEnd, hfront]
  exact ⟨after, hafter, hs, hstop⟩

theorem trim_trimEnd (s : List Char) : trim (trimEnd s) = trim s := by
  obtain ⟨after, hafter, hs, -⟩ := exists_trimEnd_append s
  have happend := trim_append_blanks (trimEnd s) hafter
  rw [← hs] at happend
  exact happend.symm

theorem trim_trimStart (s : List Char) : trim (trimStart s) = trim s := by
  have hfront : IsBlanks (s.takeWhile isBlank) := fun c hc ↦ List.mem_takeWhile_imp hc
  have happend := trim_blanks_append hfront (trimStart s)
  rw [trimStart, List.takeWhile_append_dropWhile, ← trimStart] at happend
  exact happend.symm

theorem IsTrimmed.append {t : List Char} (hs : IsTrimmed s) (hsne : s ≠ []) (between : List Char)
    (ht : IsTrimmed t) (htne : t ≠ []) : IsTrimmed (s ++ (between ++ t)) := by
  refine ⟨?_, ?_⟩
  · rw [head?_append_of_ne_nil hsne]
    exact hs.head_not_blank
  · rw [← List.append_assoc, getLast?_append_of_ne_nil _ htne]
    exact ht.getLast_not_blank

/-- Behind a text with no blanks around it, only blanks at the very end are dropped. -/
theorem IsTrimmed.trim_append (hs : IsTrimmed s) (hne : s ≠ []) (hbefore : IsBlanks before)
    (rest : List Char) : trim (before ++ (s ++ rest)) = s ++ trimEnd rest := by
  obtain ⟨after, hafter, hrest, hstop⟩ := exists_trimEnd_append rest
  have hlast : ∀ c ∈ (s ++ trimEnd rest).getLast?, isBlank c = false := by
    by_cases hnil : trimEnd rest = []
    · rw [hnil, List.append_nil]
      exact hs.getLast_not_blank
    · rwa [getLast?_append_of_ne_nil s hnil]
  have hhead : ∀ c ∈ (s ++ trimEnd rest).head?, isBlank c = false := by
    rw [head?_append_of_ne_nil hne]
    exact hs.head_not_blank
  have hsplit : s ++ rest = (s ++ trimEnd rest) ++ after := by
    rw [List.append_assoc, ← hrest]
  rw [hsplit, Text.trim_append hbefore _ hafter, trim_eq_self hhead hlast]

theorem exists_trim_append (s : List Char) :
    ∃ before after, IsBlanks before ∧ IsBlanks after ∧ s = before ++ (trim s ++ after) := by
  obtain ⟨front, after, hfront, hs, hafter, -⟩ :=
    exists_dropWhile_reverse_append isBlank (trimStart s)
  refine ⟨s.takeWhile isBlank, after, fun c hc ↦ List.mem_takeWhile_imp hc, hafter, ?_⟩
  rw [trim, trimEnd, hfront, ← hs, trimStart, List.takeWhile_append_dropWhile]

theorem isInfix_trim (s : List Char) : trim s <:+: s := by
  obtain ⟨before, after, -, -, hs⟩ := exists_trim_append s
  exact ⟨before, after, by rw [List.append_assoc, ← hs]⟩

theorem trim_eq_nil_iff : trim s = [] ↔ IsBlanks s := by
  constructor
  · intro h
    obtain ⟨before, after, hbefore, hafter, hs⟩ := exists_trim_append s
    rw [hs, h]
    exact hbefore.append hafter
  · intro h
    have htrim := trim_append_blanks [] h
    rw [List.nil_append] at htrim
    rw [htrim]
    rfl

theorem IsTrimmed.eq_nil_of_append (h : IsTrimmed (s ++ after)) (hafter : IsBlanks after) :
    after = [] := by
  by_contra hne
  have hlast := h.getLast_not_blank
  rw [getLast?_append_of_ne_nil s hne, List.getLast?_eq_some_getLast hne] at hlast
  have hblank := hafter _ (List.getLast_mem hne)
  rw [hlast _ rfl] at hblank
  cases hblank

theorem trimStart_append_cons {c : Char} (hc : isBlank c = false) (front rest : List Char) :
    trimStart (front ++ c :: rest) = trimStart front ++ c :: rest := by
  have hstop : (c :: rest).dropWhile isBlank = c :: rest :=
    List.dropWhile_cons_of_neg (Bool.not_eq_true _ ▸ hc)
  rw [trimStart, List.dropWhile_append, hstop, trimStart]
  split
  · next hfront => rw [List.isEmpty_iff.mp hfront, List.nil_append]
  · rfl

theorem trimEnd_append_cons {c : Char} (hc : isBlank c = false) (front rest : List Char) :
    trimEnd (front ++ c :: rest) = front ++ c :: trimEnd rest := by
  have hreverse : (front ++ c :: rest).reverse = rest.reverse ++ c :: front.reverse := by
    rw [List.reverse_append, List.reverse_cons, List.append_assoc, List.singleton_append]
  have hstart : trimStart (rest.reverse ++ c :: front.reverse) = _ :=
    trimStart_append_cons hc rest.reverse front.reverse
  rw [trimStart] at hstart
  rw [trimEnd, hreverse, hstart, trimEnd, trimStart, List.reverse_append, List.reverse_cons,
    List.reverse_reverse, List.append_assoc, List.singleton_append]

theorem trim_append_cons {c : Char} (hc : isBlank c = false) (front rest : List Char) :
    trim (front ++ c :: rest) = trimStart front ++ c :: trimEnd rest := by
  rw [trim, trimStart_append_cons hc, trimEnd_append_cons hc]

end Trim

theorem isWord_iff {s : List Char} : IsWord s ↔ ¬(s = [] ∨ s.any isBlank) := by
  rw [not_or, List.any_eq_true]
  constructor
  · rintro ⟨hne, hblank⟩
    refine ⟨hne, ?_⟩
    rintro ⟨c, hc, h⟩
    rw [hblank c hc] at h
    cases h
  · rintro ⟨hne, hnone⟩
    refine ⟨hne, fun c hc ↦ ?_⟩
    rw [← Bool.not_eq_true]
    exact fun h ↦ hnone ⟨c, hc, h⟩

namespace IsWord

variable {w : List Char} (h : IsWord w)
include h

theorem head_not_blank : ∀ c ∈ w.head?, isBlank c = false :=
  fun c hc ↦ h.not_blank c (List.mem_of_mem_head? hc)

theorem getLast_not_blank : ∀ c ∈ w.getLast?, isBlank c = false :=
  fun c hc ↦ h.not_blank c (List.mem_of_mem_getLast? hc)

theorem isTrimmed : IsTrimmed w :=
  ⟨h.head_not_blank, h.getLast_not_blank⟩

theorem trim_eq : trim w = w :=
  h.isTrimmed.trim_eq

theorem head_append_not_blank (s : List Char) : ∀ c ∈ (w ++ s).head?, isBlank c = false := by
  rw [head?_append_of_ne_nil h.ne_nil]
  exact h.head_not_blank

end IsWord

section Words

theorem words_append_cons {c : Char} (hc : isBlank c) (s t : List Char) :
    words (s ++ c :: t) = words s ++ words t := by
  rw [words, splitWhere_append_cons hc, List.filter_append, words, words]

theorem words_cons {c : Char} (hc : isBlank c) (s : List Char) : words (c :: s) = words s :=
  words_append_cons hc [] s

theorem words_append_blanks (s : List Char) {after : List Char} (h : IsBlanks after) :
    words (s ++ after) = words s := by
  induction after generalizing s with
  | nil => rw [List.append_nil]
  | cons c after ih =>
    obtain ⟨hc, hafter⟩ := List.forall_mem_cons.mp h
    have hnil := ih [] hafter
    rw [List.nil_append] at hnil
    rw [words_append_cons hc, hnil]
    exact List.append_nil _

theorem words_blanks_append {before : List Char} (h : IsBlanks before) (s : List Char) :
    words (before ++ s) = words s := by
  induction before with
  | nil => rfl
  | cons c before ih =>
    obtain ⟨hc, hbefore⟩ := List.forall_mem_cons.mp h
    exact (words_cons hc (before ++ s)).trans (ih hbefore)

theorem words_trim (s : List Char) : words (trim s) = words s := by
  obtain ⟨before, after, hbefore, hafter, hs⟩ := exists_trim_append s
  have hwords : words (before ++ (trim s ++ after)) = words (trim s) := by
    rw [words_blanks_append hbefore, words_append_blanks _ hafter]
  rw [← hs] at hwords
  exact hwords.symm

theorem IsWord.words_eq {w : List Char} (h : IsWord w) : words w = [w] := by
  rw [words, splitWhere_of_forall h.not_blank]
  simp [h.ne_nil]

theorem IsWord.words_append {w : List Char} (h : IsWord w) {s : List Char}
    (hs : ∀ c ∈ s.head?, isBlank c) : words (w ++ s) = w :: words s := by
  cases s with
  | nil =>
    rw [List.append_nil, h.words_eq]
    rfl
  | cons c s =>
    have hc : isBlank c := hs c rfl
    rw [words_append_cons hc, h.words_eq, ← List.nil_append (c :: s), words_append_cons hc]
    rfl

/-- The first word of a text is as long as no blank comes. -/
theorem IsWord.words_append_eq {w : List Char} (h : IsWord w) (s : List Char) :
    words (w ++ s) =
      (w ++ s.takeWhile (!isBlank ·)) :: words (s.dropWhile (!isBlank ·)) := by
  have hword : IsWord (w ++ s.takeWhile (!isBlank ·)) := by
    refine ⟨List.append_ne_nil_of_left_ne_nil h.ne_nil _, ?_⟩
    intro c hc
    rcases List.mem_append.mp hc with hc | hc
    · exact h.not_blank c hc
    · simpa using List.mem_takeWhile_imp hc
  have hrest : ∀ c ∈ (s.dropWhile (!isBlank ·)).head?, isBlank c := by
    intro c hc
    have hstop := List.head?_dropWhile_not (!isBlank ·) s
    rw [Option.mem_def.mp hc] at hstop
    simpa using hstop
  rw [← hword.words_append hrest, List.append_assoc, List.takeWhile_append_dropWhile]

theorem words_trim_append {before after : List Char} (hbefore : IsBlanks before) (s : List Char)
    (hafter : IsBlanks after) : words (trim (before ++ (s ++ after))) = words s := by
  rw [words_trim, words_blanks_append hbefore, words_append_blanks s hafter]

theorem words_eq_nil_iff {s : List Char} : words s = [] ↔ IsBlanks s := by
  induction s with
  | nil => exact iff_of_true rfl IsBlanks.nil
  | cons c s ih =>
    by_cases hc : isBlank c
    · rw [words_cons hc, ih]
      exact ⟨fun hs ↦ List.forall_mem_cons.mpr ⟨hc, hs⟩, fun hs ↦ (List.forall_mem_cons.mp hs).2⟩
    · have hword : IsWord [c] := ⟨List.cons_ne_nil c [], by simpa using hc⟩
      have hwords : words (c :: s) = _ := hword.words_append_eq s
      rw [hwords]
      refine iff_of_false (List.cons_ne_nil _ _) fun hblanks ↦ ?_
      exact hc (hblanks c List.mem_cons_self)

end Words

end TableFile.Text
