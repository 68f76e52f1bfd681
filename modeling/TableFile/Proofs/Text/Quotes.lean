import TableFile.Proofs.Text.Blank
import TableFile.Text.Identifier

namespace TableFile.Text

variable {c : Char} {s : List Char}

theorem forall_mem_inQuotes {P : Char → Prop} (hquote : P '"') (h : ∀ c ∈ s, P c) :
    ∀ c ∈ inQuotes s, P c :=
  List.forall_mem_cons.mpr
    ⟨hquote, List.forall_mem_append.mpr ⟨h, List.forall_mem_singleton.mpr hquote⟩⟩

theorem trim_inQuotes (name : List Char) : trim (inQuotes name) = inQuotes name := by
  refine trim_eq_self ?_ ?_
  · rintro c ⟨⟩
    rfl
  · rw [inQuotes, ← List.cons_append, List.getLast?_concat]
    rintro c ⟨⟩
    rfl

def spacedQuotes (name : List Char) : List Char :=
  ' ' :: (inQuotes name ++ [' '])

theorem trim_spacedQuotes (name : List Char) : trim (spacedQuotes name) = inQuotes name := by
  have hspace : IsBlanks [' '] := .singleton rfl
  exact (trim_append hspace (inQuotes name) hspace).trans (trim_inQuotes name)

theorem head_spacedQuotes_blank (name tail : List Char) :
    ∀ c ∈ (spacedQuotes name ++ tail).head?, isBlank c := by
  intro c hc
  cases hc
  rfl

theorem exists_trim_cons (hc : isBlank c = false) (s : List Char) :
    ∃ t, trim (c :: s) = c :: t ∧ t <+: s := by
  obtain ⟨before, after, hbefore, hafter, heq⟩ := exists_trim_append (c :: s)
  have hnot {blanks : List Char} (hblanks : IsBlanks blanks) : c ∉ blanks := by
    intro hmem
    have hblank := hblanks c hmem
    rw [hc] at hblank
    cases hblank
  cases before with
  | cons d before =>
    obtain ⟨rfl, -⟩ := List.cons.inj heq
    exact absurd List.mem_cons_self (hnot hbefore)
  | nil =>
    cases htrim : trim (c :: s) with
    | nil =>
      rw [htrim] at heq
      obtain rfl : c :: s = after := heq
      exact absurd List.mem_cons_self (hnot hafter)
    | cons d t =>
      rw [htrim] at heq
      obtain ⟨rfl, rfl⟩ := List.cons.inj heq
      exact ⟨t, rfl, List.prefix_append t after⟩

theorem quotedName?_brokenOff (h : '"' ∉ s) : quotedName? ('"' :: s) = none := by
  have hdrop : s.dropWhile (· ≠ '"') = [] := List.dropWhile_eq_nil_iff.mpr (forall_ne h)
  simp only [quotedName?, closingMark?, true_or, if_true, Option.bind_some, hdrop]

theorem unquote_brokenOff (h : '"' ∉ s) : unquote ('"' :: s) = '"' :: s := by
  have hlast : s.getLast? ≠ some '"' := fun hlast ↦ h (List.mem_of_getLast? hlast)
  simp only [unquote, closingMark?, true_or, if_true, if_neg hlast]

/-- A name without its closing mark keeps the mark it begins with. -/
theorem quote_mem_unquote (h : '"' ∉ s) : '"' ∈ unquote (trim ('"' :: s)) := by
  obtain ⟨t, ht, hfront⟩ := exists_trim_cons (c := '"') rfl s
  rw [ht, unquote_brokenOff fun hmem ↦ h (hfront.subset hmem)]
  exact List.mem_cons_self

end TableFile.Text
