import TableFile.Definition.Item
import TableFile.Proofs.Text.Occurrence

namespace TableFile.Definition

open Text

section SingleSpaced

variable {c : Char} {s : List Char}

def singleSpaced (s : List Char) : List Char :=
  [' '].intercalate (words s)

/-- How many spaces are kept of the blanks that a text begins with, when a word is in front. -/
def spacesBefore (s : List Char) : Nat :=
  if s.head?.all isBlank && s.any (!isBlank ·) then 1 else 0

theorem spacesBefore_of_isBlanks (h : IsBlanks s) : spacesBefore s = 0 := by
  rw [spacesBefore, isBlanks_iff_any.mp h, Bool.and_false, if_neg Bool.false_ne_true]

theorem spacesBefore_append (h : ¬IsBlanks s) (t : List Char) :
    spacesBefore (s ++ t) = spacesBefore s := by
  have hne : s ≠ [] := by
    rintro rfl
    exact h IsBlanks.nil
  have hany : s.any (!isBlank ·) = true := by
    rw [isBlanks_iff_any, Bool.not_eq_false] at h
    exact h
  rw [spacesBefore, spacesBefore, head?_append_of_ne_nil hne, List.any_append, hany, Bool.true_or]

theorem singleSpaced_cons_of_isBlank (hc : isBlank c) (s : List Char) :
    singleSpaced (c :: s) = singleSpaced s := by
  rw [singleSpaced, words_cons hc, singleSpaced]

theorem singleSpaced_of_isWord (h : IsWord s) : singleSpaced s = s := by
  rw [singleSpaced, h.words_eq, List.intercalate_singleton]

theorem canonical_of_isWord (h : IsWord s) : canonical s = upper s :=
  congrArg upper (singleSpaced_of_isWord h)

theorem canonical_pair {first gap second after : List Char} (hfirst : IsWord first)
    (hgap : IsGap gap) (hsecond : IsWord second) (hafter : IsBlanks after) :
    canonical (first ++ (gap ++ (second ++ after))) = upper first ++ ' ' :: upper second := by
  have hwords : words (first ++ (gap ++ (second ++ after))) = [first, second] := by
    rw [hfirst.words_append (hgap.head_blank _), words_blanks_append hgap.blanks,
      words_append_blanks _ hafter, hsecond.words_eq]
  rw [canonical, hwords, List.intercalate_cons_cons, List.intercalate_singleton, upper_append,
    upper_append, List.append_assoc]
  rfl

theorem singleSpaced_cons (hc : isBlank c = false) (s : List Char) :
    singleSpaced (c :: s) = c :: (List.replicate (spacesBefore s) ' ' ++ singleSpaced s) := by
  have hword : IsWord [c] := ⟨List.cons_ne_nil c [], by simpa using hc⟩
  cases s with
  | nil => exact singleSpaced_of_isWord hword
  | cons d s =>
    by_cases hd : isBlank d
    · have hwords : words ([c] ++ d :: s) = [c] :: words (d :: s) :=
        hword.words_append fun e he ↦ by rwa [← Option.some.inj he]
      rw [List.singleton_append] at hwords
      by_cases hs : IsBlanks (d :: s)
      · rw [spacesBefore_of_isBlanks hs, singleSpaced, singleSpaced, hwords,
          words_eq_nil_iff.mpr hs]
        rfl
      · have hone : spacesBefore (d :: s) = 1 := by
          rw [isBlanks_iff_any, Bool.not_eq_false] at hs
          rw [spacesBefore, hs, List.head?_cons, Option.all_some, hd, Bool.true_and, if_pos rfl]
        obtain ⟨w, ws, hws⟩ := List.exists_cons_of_ne_nil (words_eq_nil_iff.not.mpr hs)
        rw [hone, singleSpaced, singleSpaced, hwords, hws, List.intercalate_cons_cons]
        rfl
    · rw [Bool.not_eq_true] at hd
      have hzero : spacesBefore (d :: s) = 0 := by
        rw [spacesBefore, List.head?_cons, Option.all_some, hd, Bool.false_and,
          if_neg Bool.false_ne_true]
      have hfirst : IsWord [d] := ⟨List.cons_ne_nil d [], by simpa using hd⟩
      have hpair : IsWord [c, d] := ⟨List.cons_ne_nil c [d], by simp [hc, hd]⟩
      have hwords : words (c :: d :: s) = extendFirst c (words (d :: s)) :=
        (hpair.words_append_eq s).trans (congrArg (extendFirst c) (hfirst.words_append_eq s).symm)
      have hne : words (d :: s) ≠ [] := by
        rw [Ne, words_eq_nil_iff]
        exact fun hblanks ↦ Bool.false_ne_true (hd.symm.trans (hblanks d List.mem_cons_self))
      rw [hzero, singleSpaced, singleSpaced, hwords, intercalate_extendFirst c _ hne]
      rfl

end SingleSpaced

theorem exists_singleSpaced_append (s t : List Char) :
    ∃ n, singleSpaced (s ++ t) = singleSpaced s ++ (List.replicate n ' ' ++ singleSpaced t) := by
  induction s with
  | nil => exact ⟨0, rfl⟩
  | cons c s ih =>
    obtain ⟨n, ih⟩ := ih
    by_cases hc : isBlank c
    · rw [List.cons_append, singleSpaced_cons_of_isBlank hc, singleSpaced_cons_of_isBlank hc]
      exact ⟨n, ih⟩
    · rw [Bool.not_eq_true] at hc
      rw [List.cons_append, singleSpaced_cons hc, singleSpaced_cons hc]
      -- Blanks between the word and the next text are kept as one space or left out with it.
      by_cases hs : IsBlanks s
      · have hnil : singleSpaced s = [] := by
          rw [singleSpaced, words_eq_nil_iff.mpr hs, List.intercalate_nil]
        refine ⟨spacesBefore (s ++ t) + n, ?_⟩
        rw [spacesBefore_of_isBlanks hs, ih, hnil, ← List.replicate_append_replicate]
        simp only [List.replicate_zero, List.nil_append, List.cons_append, List.append_assoc]
      · rw [spacesBefore_append hs, ih]
        exact ⟨n, by simp only [List.cons_append, List.append_assoc]⟩

theorem upper_replicate (n : Nat) : upper (List.replicate n ' ') = List.replicate n ' ' := by
  induction n with
  | zero => rfl
  | succ n ih =>
    rw [List.replicate_succ, upper, List.flatMap_cons, ← upper, ih]
    rfl

/-- Each of two texts is spelled as it is by itself. -/
theorem exists_canonical_append (s t : List Char) :
    ∃ n, canonical (s ++ t) = canonical s ++ (List.replicate n ' ' ++ canonical t) := by
  obtain ⟨n, h⟩ := exists_singleSpaced_append s t
  refine ⟨n, ?_⟩
  change upper (singleSpaced (s ++ t)) = _
  rw [h, upper_append, upper_append, upper_replicate]
  rfl

theorem length_canonical_append_le (s t : List Char) :
    (canonical s).length + (canonical t).length ≤ (canonical (s ++ t)).length := by
  obtain ⟨n, h⟩ := exists_canonical_append s t
  rw [h, List.length_append, List.length_append]
  omega

end TableFile.Definition
