import Mathlib.Data.List.Forall2

namespace Except

variable {ε α β : Type}

@[simp] theorem ok_bind (a : α) (f : α → Except ε β) : ((.ok a : Except ε α) >>= f) = f a := rfl

@[simp] theorem error_bind (e : ε) (f : α → Except ε β) :
    ((.error e : Except ε α) >>= f) = .error e := rfl

@[simp] theorem pure_eq_ok (a : α) : (pure a : Except ε α) = .ok a := rfl

@[simp] theorem throw_eq_error (e : ε) : (throw e : Except ε α) = .error e := rfl

theorem bind_eq_ok_iff {x : Except ε α} {f : α → Except ε β} {b : β} :
    x >>= f = .ok b ↔ ∃ a, x = .ok a ∧ f a = .ok b := by
  cases x <;> simp

theorem bind_eq_error_iff {x : Except ε α} {f : α → Except ε β} {e : ε} :
    x >>= f = .error e ↔ x = .error e ∨ ∃ a, x = .ok a ∧ f a = .error e := by
  cases x <;> simp

theorem map_eq_ok_iff {f : α → β} {x : Except ε α} {b : β} :
    f <$> x = .ok b ↔ ∃ a, x = .ok a ∧ f a = b := by
  cases x <;> simp [Functor.map, Except.map]

/-- Two computations go alike: both give values that are related, or both fail with errors that
are. -/
inductive Alike {α' : Type} (r : ε → ε → Prop) (s : α → α' → Prop) :
    Except ε α → Except ε α' → Prop
  | ok {a : α} {a' : α'} (h : s a a') : Alike r s (.ok a) (.ok a')
  | error {e e' : ε} (h : r e e') : Alike r s (.error e) (.error e')

namespace Alike

variable {r : ε → ε → Prop}

theorem refl (hr : ∀ e, r e e) (x : Except ε α) : Alike r Eq x x := by
  cases x with
  | ok a => exact .ok rfl
  | error e => exact .error (hr e)

theorem bind {α' β' : Type} {s : α → α' → Prop} {t : β → β' → Prop} {x : Except ε α}
    {x' : Except ε α'} {f : α → Except ε β} {f' : α' → Except ε β'} (h : Alike r s x x')
    (hf : ∀ a a', s a a' → Alike r t (f a) (f' a')) : Alike r t (x >>= f) (x' >>= f') := by
  cases h with
  | ok h => exact hf _ _ h
  | error h => exact .error h

theorem mapM {α' : Type} {s : α → α' → Prop} {f : α → Except ε β} {f' : α' → Except ε β}
    (hf : ∀ a a', s a a' → Alike r Eq (f a) (f' a')) {as : List α} {as' : List α'}
    (h : List.Forall₂ s as as') : Alike r Eq (as.mapM f) (as'.mapM f') := by
  induction h with
  | nil => exact .ok rfl
  | cons ha _ ih =>
    rw [List.mapM_cons, List.mapM_cons]
    refine (hf _ _ ha).bind fun b b' hb ↦ ih.bind fun bs bs' hbs ↦ ?_
    rw [hb, hbs]
    exact .ok rfl

theorem eq_ok_iff {x x' : Except ε α} (h : Alike r Eq x x') (a : α) : x = .ok a ↔ x' = .ok a := by
  cases h with
  | ok h => rw [h]
  | error => simp

theorem exists_error {α' : Type} {s : α → α' → Prop} {x : Except ε α} {x' : Except ε α'} {e : ε}
    (h : Alike r s x x') (hx : x = .error e) : ∃ e', x' = .error e' ∧ r e e' := by
  cases h with
  | ok => cases hx
  | error h =>
    obtain rfl := Except.error.inj hx
    exact ⟨_, rfl, h⟩

end Alike

theorem mapM_eq_ok_iff {f : α → Except ε β} {as : List α} {bs : List β} :
    as.mapM f = .ok bs ↔ List.Forall₂ (fun a b ↦ f a = .ok b) as bs := by
  induction as generalizing bs with
  | nil => simp [eq_comm]
  | cons a as ih =>
    simp only [List.mapM_cons, bind_eq_ok_iff, pure_eq_ok, Except.ok.injEq,
      List.forall₂_cons_left_iff]
    constructor
    · rintro ⟨b, hb, bs', hbs, rfl⟩
      exact ⟨b, bs', hb, ih.mp hbs, rfl⟩
    · rintro ⟨b, bs', hb, hbs, rfl⟩
      exact ⟨b, hb, bs', ih.mpr hbs, rfl⟩

end Except

theorem Option.mapM_eq_some_iff {α β : Type} {f : α → Option β} {as : List α} {bs : List β} :
    as.mapM f = some bs ↔ List.Forall₂ (fun a b ↦ f a = some b) as bs := by
  induction as generalizing bs with
  | nil => simp [eq_comm]
  | cons a as ih =>
    simp only [List.mapM_cons, Option.bind_eq_bind, Option.bind_eq_some_iff, Option.pure_def,
      Option.some.injEq, List.forall₂_cons_left_iff]
    constructor
    · rintro ⟨b, hb, bs', hbs, rfl⟩
      exact ⟨b, bs', hb, ih.mp hbs, rfl⟩
    · rintro ⟨b, bs', hb, hbs, rfl⟩
      exact ⟨b, hb, bs', ih.mpr hbs, rfl⟩
