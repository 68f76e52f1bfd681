import Mathlib.Data.List.TakeWhile

namespace TableFile.Text

variable {p : Char → Bool} {s after : List Char}

theorem dropWhile_eq_self (h : ∀ c ∈ s.head?, p c = false) : s.dropWhile p = s := by
  cases s with
  | nil => rfl
  | cons c s => exact List.dropWhile_cons_of_neg (by simpa using h c)

theorem dropWhile_append_eq {t : List Char} (hs : ∀ c ∈ s, p c)
    (ht : ∀ c ∈ t.head?, p c = false) : (s ++ t).dropWhile p = t := by
  rw [List.dropWhile_append_of_pos hs, dropWhile_eq_self ht]

theorem takeWhile_append_eq {t : List Char} (hs : ∀ c ∈ s, p c)
    (ht : ∀ c ∈ t.head?, p c = false) : (s ++ t).takeWhile p = s := by
  have happend := List.takeWhile_append_dropWhile (p := p) (l := s ++ t)
  rw [dropWhile_append_eq hs ht] at happend
  exact List.append_cancel_right happend

theorem dropWhile_reverse_eq_self (h : ∀ c ∈ s.getLast?, p c = false) :
    s.reverse.dropWhile p = s.reverse := by
  apply dropWhile_eq_self
  rwa [List.head?_reverse]

theorem dropWhile_reverse_append (s : List Char) (h : ∀ c ∈ after, p c) :
    (s ++ after).reverse.dropWhile p = s.reverse.dropWhile p := by
  have hreverse : ∀ c ∈ after.reverse, p c := fun c hc ↦ h c (List.mem_reverse.mp hc)
  rw [List.reverse_append, List.dropWhile_append_of_pos hreverse]

theorem exists_dropWhile_reverse_append (p : Char → Bool) (s : List Char) :
    ∃ front after, (s.reverse.dropWhile p).reverse = front ∧ s = front ++ after ∧
      (∀ c ∈ after, p c) ∧ ∀ c ∈ front.getLast?, p c = false := by
  refine ⟨_, (s.reverse.takeWhile p).reverse, rfl, ?_, ?_, ?_⟩
  · rw [← List.reverse_append, List.takeWhile_append_dropWhile, List.reverse_reverse]
  · intro c hc
    exact List.mem_takeWhile_imp (List.mem_reverse.mp hc)
  · intro c hc
    have hstop := List.head?_dropWhile_not p s.reverse
    rw [List.getLast?_reverse, Option.mem_def] at hc
    rw [hc] at hstop
    exact hstop

section Mark

variable {mark : Char}

theorem forall_ne (h : mark ∉ s) : ∀ c ∈ s, decide (c ≠ mark) = true := by
  intro c hc
  rw [decide_eq_true_eq]
  rintro rfl
  exact h hc

theorem head?_cons_not_ne (mark : Char) (t : List Char) :
    ∀ c ∈ (mark :: t).head?, decide (c ≠ mark) = false := by
  rintro c ⟨⟩
  rw [decide_eq_false_iff_not]
  exact fun h ↦ h rfl

theorem dropWhile_ne (h : mark ∉ s) (t : List Char) :
    (s ++ mark :: t).dropWhile (· ≠ mark) = mark :: t :=
  dropWhile_append_eq (forall_ne h) (head?_cons_not_ne mark t)

theorem takeWhile_ne (h : mark ∉ s) (t : List Char) :
    (s ++ mark :: t).takeWhile (· ≠ mark) = s :=
  takeWhile_append_eq (forall_ne h) (head?_cons_not_ne mark t)

theorem dropWhile_reverse_ne (s : List Char) (h : mark ∉ after) :
    (s ++ mark :: after).reverse.dropWhile (· ≠ mark) = mark :: s.reverse := by
  have hreverse : (s ++ mark :: after).reverse = after.reverse ++ mark :: s.reverse := by
    rw [List.reverse_append, List.reverse_cons, List.append_assoc, List.singleton_append]
  rw [hreverse, dropWhile_ne (List.mem_reverse.not.mpr h)]

end Mark

end TableFile.Text
