import Mathlib.Data.List.Infix
import TableFile.Proofs.Definition.Item
import TableFile.Proofs.Text.Cut

namespace TableFile.Definition

open Text

/-- Behind `depth` open parentheses, the text closes just these and all that it opens itself, and no
front of it closes more than are open. -/
structure Balances (depth : Nat) (s : List Char) : Prop where
  count_eq : s.count ')' = s.count '(' + depth
  count_le : ∀ t, t <+: s → t.count ')' ≤ t.count '(' + depth

abbrev IsBalanced (s : List Char) : Prop :=
  Balances 0 s

section Enclosed

variable {depth : Nat} {c : Char} {s text inner : List Char}

theorem forall_prefix_cons_iff {P : List Char → Prop} :
    (∀ t, t <+: c :: s → P t) ↔ P [] ∧ ∀ t, t <+: s → P (c :: t) := by
  constructor
  · intro h
    exact ⟨h [] List.nil_prefix, fun t ht ↦ h (c :: t) ((List.prefix_cons_inj c).mpr ht)⟩
  · rintro ⟨hnil, hcons⟩ t ht
    rcases List.prefix_cons_iff.mp ht with rfl | ⟨front, rfl, hfront⟩
    · exact hnil
    · exact hcons front hfront

theorem balances_cons_iff : Balances depth (c :: s) ↔
    (c :: s).count ')' = (c :: s).count '(' + depth ∧
      ∀ t, t <+: s → (c :: t).count ')' ≤ (c :: t).count '(' + depth := by
  constructor
  · rintro ⟨heq, hle⟩
    exact ⟨heq, (forall_prefix_cons_iff.mp hle).2⟩
  · rintro ⟨heq, hle⟩
    exact ⟨heq, forall_prefix_cons_iff.mpr ⟨Nat.zero_le _, hle⟩⟩

theorem balances_iff : Balances depth s ↔
    s.count ')' = s.count '(' + depth ∧ ∀ t, t <+: s → t.count ')' ≤ t.count '(' + depth :=
  ⟨fun h ↦ ⟨h.count_eq, h.count_le⟩, fun h ↦ ⟨h.1, h.2⟩⟩

instance (depth : Nat) (s : List Char) : Decidable (Balances depth s) :=
  decidable_of_iff (s.count ')' = s.count '(' + depth ∧
    ∀ t ∈ s.inits, t.count ')' ≤ t.count '(' + depth) (by simp [balances_iff])

theorem balances_nil_iff : Balances depth [] ↔ depth = 0 := by
  simp [balances_iff, eq_comm]

theorem balances_opening_iff : Balances depth ('(' :: s) ↔ Balances (depth + 1) s := by
  rw [balances_cons_iff, balances_iff]
  simp [Nat.add_assoc, Nat.add_comm 1]

theorem balances_closing_iff : Balances (depth + 1) (')' :: s) ↔ Balances depth s := by
  rw [balances_cons_iff, balances_iff]
  simp [← Nat.add_assoc]

theorem not_balances_closing : ¬Balances 0 (')' :: s) := by
  intro h
  have hle := h.count_le [')'] ((List.prefix_cons_inj _).mpr List.nil_prefix)
  simp at hle

theorem balances_other_iff (hopening : c ≠ '(') (hclosing : c ≠ ')') :
    Balances depth (c :: s) ↔ Balances depth s := by
  rw [balances_cons_iff, balances_iff]
  simp [hopening, hclosing]

theorem balances_append_iff {front : List Char} (hopening : '(' ∉ front) (hclosing : ')' ∉ front) :
    Balances depth (front ++ s) ↔ Balances depth s := by
  induction front with
  | nil => rfl
  | cons c front ih =>
    obtain ⟨hc, hopening⟩ := List.ne_and_not_mem_of_not_mem_cons hopening
    obtain ⟨hc', hclosing⟩ := List.ne_and_not_mem_of_not_mem_cons hclosing
    rw [List.cons_append, balances_other_iff hc.symm hc'.symm]
    exact ih hopening hclosing

/-- Only a parenthesis that closes one opened before the text ends what it encloses. -/
theorem parenthesizedFrom?_eq_some_iff : parenthesizedFrom? depth text = some inner ↔
    ∃ rest, text = inner ++ ')' :: rest ∧ Balances depth inner := by
  induction text generalizing depth inner with
  | nil => simp [parenthesizedFrom?]
  | cons c text ih =>
    -- What is enclosed is nothing, or begins with the first character and goes on behind it.
    have hrest {depth' : Nat} (hcons : ∀ s, Balances depth (c :: s) ↔ Balances depth' s)
        (hnil : ¬(c = ')' ∧ depth = 0)) :
        (parenthesizedFrom? depth' text).map (c :: ·) = some inner ↔
          ∃ rest, c :: text = inner ++ ')' :: rest ∧ Balances depth inner := by
      cases inner with
      | nil =>
        simp only [Option.map_eq_some_iff, reduceCtorEq, and_false, exists_false, false_iff]
        rintro ⟨rest, heq, hbalances⟩
        exact hnil ⟨(List.cons.inj heq).1, balances_nil_iff.mp hbalances⟩
      | cons d inner =>
        simp only [Option.map_eq_some_iff, List.cons_append, List.cons.injEq, ih]
        constructor
        · rintro ⟨_, ⟨rest, rfl, hbalances⟩, rfl, rfl⟩
          exact ⟨rest, ⟨rfl, rfl⟩, (hcons _).mpr hbalances⟩
        · rintro ⟨rest, ⟨rfl, rfl⟩, hbalances⟩
          exact ⟨inner, ⟨rest, rfl, (hcons _).mp hbalances⟩, rfl, rfl⟩
    unfold parenthesizedFrom?
    by_cases hopening : c = '('
    · subst hopening
      rw [if_pos rfl]
      exact hrest (fun s ↦ balances_opening_iff) (by simp)
    rw [if_neg hopening]
    by_cases hclosing : c = ')'
    · subst hclosing
      rw [if_pos rfl]
      cases depth with
      | zero =>
        constructor
        · intro h
          obtain rfl := Option.some.inj h
          exact ⟨text, rfl, balances_nil_iff.mpr rfl⟩
        · rintro ⟨rest, heq, hbalances⟩
          cases inner with
          | nil => rfl
          | cons d inner =>
            obtain ⟨rfl, -⟩ := List.cons.inj heq
            exact absurd hbalances not_balances_closing
      | succ depth => exact hrest (fun s ↦ balances_closing_iff) (by simp)
    · rw [if_neg hclosing]
      exact hrest (fun s ↦ balances_other_iff hopening hclosing) (by simp [hclosing])

theorem parenthesized?_append {front : List Char} (h : '(' ∉ front) (text : List Char) :
    parenthesized? (front ++ '(' :: text) = parenthesizedFrom? 0 text := by
  rw [parenthesized?, dropWhile_ne h]

theorem isBalanced_inQuotes_iff {name : List Char} :
    IsBalanced (inQuotes name) ↔ IsBalanced name := by
  rw [IsBalanced, inQuotes, balances_other_iff (by decide) (by decide), balances_iff, IsBalanced,
    balances_iff]
  simpa [List.prefix_concat_iff, or_imp, forall_and] using fun heq _ ↦ heq.le

end Enclosed

end TableFile.Definition
