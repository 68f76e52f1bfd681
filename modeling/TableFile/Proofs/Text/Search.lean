import TableFile.Proofs.Text.Keyword

namespace TableFile.Text

structure StandsAlone (word before spelled after : List Char) : Prop where
  sameLetters : sameLetters word spelled
  blank_before : ∀ c ∈ before.getLast?, isBlank c
  blank_after : ∀ c ∈ after.head?, isBlank c

def HasWord (word s : List Char) : Prop :=
  ∃ before spelled after, StandsAlone word before spelled after ∧ s = before ++ (spelled ++ after)

section Front

variable {word spelled before after s t : List Char} {c : Char}

theorem StandsAlone.of_append (h : StandsAlone word (s ++ before) spelled after) :
    StandsAlone word before spelled after := by
  refine ⟨h.sameLetters, ?_, h.blank_after⟩
  intro c hc
  apply h.blank_before c
  rw [List.getLast?_append, Option.mem_def.mp hc, Option.some_or]
  exact rfl

theorem StandsAlone.append (h : StandsAlone word before spelled after) (s : List Char)
    (hne : before ≠ []) : StandsAlone word (s ++ before) spelled after := by
  refine ⟨h.sameLetters, ?_, h.blank_after⟩
  rw [getLast?_append_of_ne_nil s hne]
  exact h.blank_before

theorem afterWholeWord?_eq_some_iff :
    afterWholeWord? word s = some after ↔
      ∃ spelled, StandsAlone word [] spelled after ∧ s = spelled ++ after := by
  constructor
  · intro h
    obtain ⟨spelled, hs, hsame, hafter⟩ := exists_of_afterWholeWord? h
    exact ⟨spelled, ⟨hsame, by simp, hafter⟩, hs⟩
  · rintro ⟨spelled, h, rfl⟩
    exact afterWholeWord?_append h.sameLetters h.blank_after

/-- What comes behind a blank has no part in whether a text starts with the word. -/
theorem afterWholeWord?_append_left (hword : IsKeyword word) (hc : isBlank c) (s t : List Char) :
    afterWholeWord? word ((s ++ [c]) ++ t) = (afterWholeWord? word (s ++ [c])).map (· ++ t) := by
  cases h : afterWholeWord? word (s ++ [c]) with
  | some rest =>
    obtain ⟨spelled, halone, hs⟩ := afterWholeWord?_eq_some_iff.mp h
    have hrest : rest ≠ [] := by
      rintro rfl
      have hlast : c ∈ spelled := by
        rw [← List.append_nil spelled, ← hs]
        exact List.mem_append_right s (List.mem_singleton_self c)
      have hblank := (hword.of_sameLetters halone.sameLetters).isWord.not_blank c hlast
      rw [hc] at hblank
      cases hblank
    rw [hs, List.append_assoc, afterWholeWord?_append halone.sameLetters]
    · rfl
    · rw [head?_append_of_ne_nil hrest]
      exact halone.blank_after
  | none =>
    rw [Option.map_none, Option.eq_none_iff_forall_ne_some]
    intro rest hrest
    obtain ⟨spelled, halone, hs⟩ := afterWholeWord?_eq_some_iff.mp hrest
    have hspelled := (hword.of_sameLetters halone.sameLetters).isWord
    -- The word holds no blank, so it ends in front of `c`.
    have hprefix : ∃ u, s ++ [c] = spelled ++ u ∧ rest = u ++ t := by
      rcases List.append_eq_append_iff.mp hs with ⟨u, hu, -⟩ | h
      · have hmem : c ∈ spelled := by
          rw [hu]
          exact List.mem_append_left u (List.mem_append_right s (List.mem_singleton_self c))
        have hblank := hspelled.not_blank c hmem
        rw [hc] at hblank
        cases hblank
      · exact h
    obtain ⟨u, hu, rfl⟩ := hprefix
    have hfound : afterWholeWord? word (s ++ [c]) = some u := by
      rw [afterWholeWord?_eq_some_iff]
      refine ⟨spelled, ⟨halone.sameLetters, by simp, ?_⟩, hu⟩
      intro d hd
      apply halone.blank_after d
      rw [List.head?_append, Option.mem_def.mp hd, Option.some_or]
      exact rfl
    rw [h] at hfound
    cases hfound

end Front

section Search

variable {word spelled before after s : List Char}

theorem exists_of_cutAtWord? {start : Bool} (h : cutAtWord? word start s = some (before, after)) :
    ∃ spelled, StandsAlone word before spelled after ∧ s = before ++ (spelled ++ after) ∧
      (before = [] → start) := by
  induction s generalizing start before with
  | nil => cases h
  | cons c s ih =>
    rw [cutAtWord?] at h
    split at h
    · next rest hrest =>
      obtain ⟨rfl, rfl⟩ := Prod.mk.inj (Option.some.inj h)
      obtain ⟨hstart, hrest⟩ := Option.ite_none_right_eq_some.mp hrest
      obtain ⟨spelled, halone, hs⟩ := afterWholeWord?_eq_some_iff.mp hrest
      exact ⟨spelled, halone, hs, fun _ ↦ hstart⟩
    · obtain ⟨⟨before, after⟩, hcut, heq⟩ := Option.map_eq_some_iff.mp h
      obtain ⟨rfl, rfl⟩ := Prod.mk.inj heq
      obtain ⟨spelled, halone, rfl, hstart⟩ := ih hcut
      refine ⟨spelled, ?_, rfl, fun h ↦ absurd h (List.cons_ne_nil c before)⟩
      by_cases hnil : before = []
      · subst hnil
        exact ⟨halone.sameLetters, by simpa using hstart rfl, halone.blank_after⟩
      · exact halone.append [c] hnil

/-- The search looks at what is in front of a word that stands alone before it comes to the word. -/
theorem cutAtWord?_standsAlone (hword : IsKeyword word)
    (h : StandsAlone word before spelled after) {start : Bool} (hstart : before = [] → start) :
    cutAtWord? word start (before ++ (spelled ++ after)) =
      match cutAtWord? word start before with
      | some (before', rest) => some (before', rest ++ (spelled ++ after))
      | none => some (before, after) := by
  -- By induction on what is in front of the word. That ends in a blank all along, so at none of its
  -- places does the word and what follows it count.
  induction before generalizing start with
  | nil =>
    rw [hstart rfl]
    exact cutAtWord?_spelled hword h.sameLetters h.blank_after
  | cons c before ih =>
    have hnext : before = [] → isBlank c := by
      rintro rfl
      exact h.blank_before c rfl
    have hih := ih (StandsAlone.of_append (s := [c]) h) hnext
    obtain ⟨front, last, hfront⟩ := (List.eq_nil_or_concat' (c :: before)).resolve_left
      (List.cons_ne_nil c before)
    have hlast : isBlank last := by
      apply h.blank_before last
      rw [hfront, List.getLast?_concat]
      exact rfl
    have hafter : afterWholeWord? word (c :: (before ++ (spelled ++ after))) =
        (afterWholeWord? word (c :: before)).map (· ++ (spelled ++ after)) := by
      rw [← List.cons_append, hfront, afterWholeWord?_append_left hword hlast]
    rw [List.cons_append, cutAtWord?, cutAtWord?, hafter, hih]
    cases start with
    | false =>
      simp only [Bool.false_eq_true, if_false]
      cases cutAtWord? word (isBlank c) before <;> rfl
    | true =>
      simp only [if_true]
      cases afterWholeWord? word (c :: before) with
      | some rest => rfl
      | none => cases cutAtWord? word (isBlank c) before <;> rfl

theorem cutAtWord?_eq_none_iff (hword : IsKeyword word) :
    cutAtWord? word true s = none ↔ ¬HasWord word s := by
  constructor
  · rintro h ⟨before, spelled, after, halone, rfl⟩
    rw [cutAtWord?_standsAlone hword halone fun _ ↦ rfl] at h
    split at h <;> cases h
  · intro h
    rw [Option.eq_none_iff_forall_ne_some]
    rintro ⟨before, after⟩ hcut
    obtain ⟨spelled, halone, hs, -⟩ := exists_of_cutAtWord? hcut
    exact h ⟨before, spelled, after, halone, hs⟩

/-- The search finds the first place: no word that stands alone is in front of it. -/
theorem cutAtWord?_eq_some_iff (hword : IsKeyword word) :
    cutAtWord? word true s = some (before, after) ↔
      ∃ spelled, StandsAlone word before spelled after ∧ s = before ++ (spelled ++ after) ∧
        ¬HasWord word before := by
  constructor
  · intro h
    obtain ⟨spelled, halone, rfl, -⟩ := exists_of_cutAtWord? h
    refine ⟨spelled, halone, rfl, ?_⟩
    rw [← cutAtWord?_eq_none_iff hword]
    rw [cutAtWord?_standsAlone hword halone fun _ ↦ rfl] at h
    split at h
    · next before' rest hcut =>
      obtain ⟨rfl, -⟩ := Prod.mk.inj (Option.some.inj h)
      obtain ⟨spelled', halone', hs, -⟩ := exists_of_cutAtWord? hcut
      have hne := (hword.of_sameLetters halone'.sameLetters).ne_nil
      simp [hne] at hs
    · assumption
  · rintro ⟨spelled, halone, rfl, hnone⟩
    rw [cutAtWord?_standsAlone hword halone fun _ ↦ rfl, (cutAtWord?_eq_none_iff hword).mpr hnone]

/-- Blanks around a text have no part in which words stand alone in it. -/
theorem hasWord_cons_iff (hword : IsKeyword word) {c : Char} (hc : isBlank c) :
    HasWord word (c :: s) ↔ HasWord word s := by
  constructor
  · rintro ⟨before, spelled, after, halone, heq⟩
    have hspelled := (hword.of_sameLetters halone.sameLetters).isWord
    cases before with
    | nil =>
      obtain ⟨d, spelled, rfl⟩ := List.exists_cons_of_ne_nil hspelled.ne_nil
      obtain ⟨rfl, -⟩ := List.cons.inj heq
      have hblank := hspelled.not_blank c List.mem_cons_self
      rw [hc] at hblank
      cases hblank
    | cons d before =>
      obtain ⟨rfl, rfl⟩ := List.cons.inj heq
      exact ⟨before, spelled, after, StandsAlone.of_append (s := [c]) halone, rfl⟩
  · rintro ⟨before, spelled, after, halone, rfl⟩
    refine ⟨c :: before, spelled, after, ⟨halone.sameLetters, ?_, halone.blank_after⟩, rfl⟩
    intro d hd
    by_cases hnil : before = []
    · subst hnil
      obtain rfl := Option.some.inj hd
      exact hc
    · exact (halone.append [c] hnil).blank_before d hd

theorem hasWord_concat_iff (hword : IsKeyword word) {c : Char} (hc : isBlank c) :
    HasWord word (s ++ [c]) ↔ HasWord word s := by
  constructor
  · rintro ⟨before, spelled, after, halone, heq⟩
    have hspelled := (hword.of_sameLetters halone.sameLetters).isWord
    rcases List.eq_nil_or_concat' after with rfl | ⟨after, d, rfl⟩
    · have hlast := congrArg List.getLast? heq
      rw [List.append_nil, List.getLast?_concat,
        getLast?_append_of_ne_nil _ hspelled.ne_nil] at hlast
      have hblank := hspelled.getLast_not_blank c hlast.symm
      rw [hc] at hblank
      cases hblank
    · rw [← List.append_assoc, ← List.append_assoc] at heq
      obtain ⟨rfl, -⟩ := List.append_inj' heq rfl
      refine ⟨before, spelled, after, ⟨halone.sameLetters, halone.blank_before, ?_⟩,
        List.append_assoc _ _ _⟩
      intro e he
      apply halone.blank_after e
      rw [List.head?_append, Option.mem_def.mp he, Option.some_or]
      exact rfl
  · rintro ⟨before, spelled, after, halone, rfl⟩
    refine ⟨before, spelled, after ++ [c], ⟨halone.sameLetters, halone.blank_before, ?_⟩, ?_⟩
    · intro d hd
      by_cases hnil : after = []
      · subst hnil
        obtain rfl := Option.some.inj hd
        exact hc
      · rw [head?_append_of_ne_nil hnil] at hd
        exact halone.blank_after d hd
    · simp only [List.append_assoc]

end Search

end TableFile.Text
