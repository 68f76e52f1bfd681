import TableFile.Proofs.Text.Keyword

namespace TableFile.Text

/-- The word is in the text in some case, by itself or within other words. -/
def Mentions (word s : List Char) : Prop :=
  word.map Char.toLower <:+: s.map Char.toLower

instance (word s : List Char) : Decidable (Mentions word s) :=
  inferInstanceAs (Decidable (_ <:+: _))

theorem Mentions.of_infix {word s t : List Char} (h : Mentions word s) (hst : s <:+: t) :
    Mentions word t :=
  List.IsInfix.trans h (hst.map Char.toLower)

section Infix

variable {α : Type} {a : α} {part s t : List α}

/-- A text that begins in front of a character it lacks ends there too. -/
theorem prefix_append_cons_iff (h : a ∉ part) : part <+: s ++ a :: t ↔ part <+: s := by
  induction s generalizing part with
  | nil =>
    cases part with
    | nil => exact iff_of_true List.nil_prefix List.nil_prefix
    | cons b part =>
      rw [List.nil_append, List.cons_prefix_cons, List.prefix_nil]
      constructor
      · rintro ⟨rfl, -⟩
        exact absurd List.mem_cons_self h
      · intro hnil
        cases hnil
  | cons c s ih =>
    cases part with
    | nil => exact iff_of_true List.nil_prefix List.nil_prefix
    | cons b part =>
      rw [List.cons_append, List.cons_prefix_cons, List.cons_prefix_cons,
        ih (List.not_mem_of_not_mem_cons h)]

theorem infix_append_cons_iff (h : a ∉ part) :
    part <:+: s ++ a :: t ↔ part <:+: s ∨ part <:+: t := by
  induction s with
  | nil =>
    have hnil := prefix_append_cons_iff (s := []) (t := t) h
    rw [List.nil_append] at hnil
    rw [List.nil_append, List.infix_cons_iff, hnil, List.prefix_nil, List.infix_nil]
  | cons c s ih =>
    rw [List.cons_append, List.infix_cons_iff, ← List.cons_append, prefix_append_cons_iff h, ih,
      List.infix_cons_iff, or_assoc]

theorem infix_replicate_append_iff {n : Nat} (hne : part ≠ []) (hhead : part.head? ≠ some a) :
    part <:+: List.replicate n a ++ t ↔ part <:+: t := by
  obtain ⟨b, part, rfl⟩ := List.exists_cons_of_ne_nil hne
  induction n with
  | zero => rfl
  | succ n ih =>
    rw [List.replicate_succ, List.cons_append, List.infix_cons_iff, ih, List.cons_prefix_cons,
      or_iff_right]
    rintro ⟨rfl, -⟩
    exact hhead rfl

theorem infix_append_replicate_iff {n : Nat} (hne : part ≠ []) (hlast : part.getLast? ≠ some a) :
    part <:+: t ++ List.replicate n a ↔ part <:+: t := by
  have hhead : part.reverse.head? ≠ some a := by rwa [List.head?_reverse]
  rw [← List.reverse_infix, List.reverse_append, List.reverse_replicate,
    infix_replicate_append_iff (List.reverse_ne_nil_iff.mpr hne) hhead, List.reverse_infix]

end Infix

section Search

variable {word spelled part s t : List Char} {c : Char}

theorem occursIn_iff : occursIn part s ↔ part <:+: s := by
  induction s with
  | nil => rw [occursIn, List.isEmpty_iff, List.infix_nil]
  | cons c s ih =>
    rw [occursIn, Bool.or_eq_true, ih, List.isPrefixOf_iff_prefix, List.infix_cons_iff]

theorem isSome_afterWord?_iff :
    (afterWord? word s).isSome ↔ word.map Char.toLower <+: s.map Char.toLower := by
  rw [List.prefix_iff_eq_take, List.length_map, ← List.map_take, ← sameLetters_iff, afterWord?]
  split
  · next h => exact iff_of_true rfl h
  · next h => exact iff_of_false Bool.false_ne_true h

theorem fromWord?_eq_none_iff (hne : word ≠ []) : fromWord? word s = none ↔ ¬Mentions word s := by
  unfold Mentions
  induction s with
  | nil => simp [fromWord?, hne]
  | cons c s ih =>
    rw [List.map_cons, List.infix_cons_iff, ← List.map_cons, ← isSome_afterWord?_iff, not_or, ← ih,
      fromWord?]
    split
    · next h => exact iff_of_false (Option.some_ne_none _) fun hnot ↦ hnot.1 h
    · next h => exact (and_iff_right h).symm

theorem exists_of_fromWord? (h : fromWord? word s = some t) :
    ∃ front, s = front ++ t ∧ (afterWord? word t).isSome := by
  induction s with
  | nil => cases h
  | cons c s ih =>
    rw [fromWord?] at h
    split at h
    · next hafter =>
      obtain rfl := Option.some.inj h
      exact ⟨[], rfl, hafter⟩
    · obtain ⟨front, rfl, hafter⟩ := ih h
      exact ⟨c :: front, rfl, hafter⟩

variable (hword : IsKeyword word)
include hword

theorem fromWord?_of_sameLetters (h : sameLetters word spelled) (rest : List Char) :
    fromWord? word (spelled ++ rest) = some (spelled ++ rest) := by
  have hafter := afterWord?_append h rest
  obtain ⟨c, spelled, rfl⟩ := List.exists_cons_of_ne_nil (hword.of_sameLetters h).ne_nil
  rw [List.cons_append] at hafter ⊢
  rw [fromWord?, hafter, Option.isSome_some, if_pos rfl]

/-- What is no letter is no part of a word, so the search in front of it is one of its own. -/
theorem fromWord?_append_cons (hc : c.isAlpha = false) (s t : List Char) :
    fromWord? word (s ++ c :: t) =
      ((fromWord? word s).map (· ++ c :: t)).or (fromWord? word t) := by
  have hlower : c.toLower ∉ word.map Char.toLower := by
    intro hmem
    obtain ⟨d, hd, heq⟩ := List.mem_map.mp hmem
    have halpha := hword.isAlpha d hd
    rw [← Char.isAlpha_toLower_eq_isAlpha, heq, Char.isAlpha_toLower_eq_isAlpha, hc] at halpha
    cases halpha
  have hafter (s : List Char) :
      (afterWord? word (s ++ c :: t)).isSome = (afterWord? word s).isSome := by
    rw [Bool.eq_iff_iff, isSome_afterWord?_iff, isSome_afterWord?_iff, List.map_append,
      List.map_cons, prefix_append_cons_iff hlower]
  have hnil : (afterWord? word []).isSome = false := by
    rw [← Bool.not_eq_true, isSome_afterWord?_iff, List.map_nil, List.prefix_nil,
      List.map_eq_nil_iff]
    exact hword.ne_nil
  induction s with
  | nil =>
    have hhead := hafter []
    rw [List.nil_append, hnil] at hhead
    have hnext : fromWord? word (c :: t) = fromWord? word t := by
      rw [fromWord?, hhead, if_neg Bool.false_ne_true]
    rw [List.nil_append, hnext]
    rfl
  | cons d s ih =>
    rw [List.cons_append, fromWord?, ← List.cons_append, hafter (d :: s), fromWord?, ih]
    split
    · rfl
    · rfl

theorem fromWord?_blanks_append {blanks : List Char} (hblanks : IsBlanks blanks) (s : List Char) :
    fromWord? word (blanks ++ s) = fromWord? word s := by
  induction blanks with
  | nil => rfl
  | cons c blanks ih =>
    obtain ⟨hc, hblanks⟩ := List.forall_mem_cons.mp hblanks
    have hsearch := fromWord?_append_cons hword (isAlpha_of_isBlank hc) [] (blanks ++ s)
    rw [List.nil_append] at hsearch
    rw [List.cons_append, hsearch, ih hblanks]
    rfl

theorem fromWord?_append_gap {gap : List Char} (hgap : IsGap gap) (s t : List Char) :
    fromWord? word (s ++ (gap ++ t)) =
      ((fromWord? word s).map (· ++ (gap ++ t))).or (fromWord? word t) := by
  obtain ⟨hne, hblanks⟩ := hgap
  obtain ⟨c, gap, rfl⟩ := List.exists_cons_of_ne_nil hne
  obtain ⟨hc, hgap⟩ := List.forall_mem_cons.mp hblanks
  rw [List.cons_append, fromWord?_append_cons hword (isAlpha_of_isBlank hc),
    fromWord?_blanks_append hword hgap]

end Search

end TableFile.Text
