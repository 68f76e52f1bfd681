import Mathlib
import TableFile.Proofs.Text.Blank
import TableFile.Text.Keyword

namespace TableFile.Text

structure IsKeyword (word : List Char) : Prop where
  ne_nil : word ≠ []
  isAlpha : ∀ c ∈ word, c.isAlpha

section Letters

variable {c : Char} {s t word : List Char}

theorem isUpper_iff : c.isUpper ↔ 65 ≤ c.toNat ∧ c.toNat ≤ 90 := by
  simp [Char.isUpper, UInt32.le_iff_toNat_le, ← Char.toNat_val]

theorem isLower_iff : c.isLower ↔ 97 ≤ c.toNat ∧ c.toNat ≤ 122 := by
  simp [Char.isLower, UInt32.le_iff_toNat_le, ← Char.toNat_val]

theorem isDigit_iff : c.isDigit ↔ 48 ≤ c.toNat ∧ c.toNat ≤ 57 := by
  simp [Char.isDigit, UInt32.le_iff_toNat_le, ← Char.toNat_val]

theorem isAlpha_iff : c.isAlpha ↔
    65 ≤ c.toNat ∧ c.toNat ≤ 90 ∨ 97 ≤ c.toNat ∧ c.toNat ≤ 122 := by
  rw [Char.isAlpha, Bool.or_eq_true, isUpper_iff, isLower_iff]

theorem isBlank_of_isAlpha (h : c.isAlpha) : isBlank c = false := by
  rw [isAlpha_iff] at h
  simp only [isBlank, Bool.or_eq_false_iff, Bool.and_eq_false_iff, decide_eq_false_iff_not,
    beq_eq_false_iff_ne]
  omega

theorem isAlpha_of_isBlank (h : isBlank c) : c.isAlpha = false := by
  by_contra halpha
  rw [isBlank_of_isAlpha (Bool.not_eq_false _ ▸ halpha)] at h
  cases h

theorem sameLetters_iff : sameLetters s t ↔ s.map Char.toLower = t.map Char.toLower :=
  beq_iff_eq

theorem sameName_self (s : String) : sameName s s := by
  simp [sameName, sameLetters]

theorem sameName_congr {s t : String} (h : sameName s t) (u : String) :
    sameName u s = sameName u t := by
  rw [sameName, sameName, sameLetters, sameLetters, sameLetters_iff.mp h]

/-- Each character has one in the other text that is a letter just if it is. -/
theorem exists_isAlpha_eq (h : sameLetters s t) (hc : c ∈ t) : ∃ d ∈ s, d.isAlpha = c.isAlpha := by
  have hlower : c.toLower ∈ s.map Char.toLower := by
    rw [sameLetters_iff.mp h]
    exact List.mem_map_of_mem hc
  obtain ⟨d, hd, heq⟩ := List.mem_map.mp hlower
  refine ⟨d, hd, ?_⟩
  rw [← Char.isAlpha_toLower_eq_isAlpha, heq, Char.isAlpha_toLower_eq_isAlpha]

theorem isAlpha_of_sameLetters (hword : ∀ c ∈ word, c.isAlpha) (h : sameLetters word s) :
    ∀ c ∈ s, c.isAlpha := by
  intro c hc
  obtain ⟨letter, hletter, heq⟩ := exists_isAlpha_eq h hc
  rw [← heq]
  exact hword letter hletter

theorem eq_of_sameLetters (hs : ∀ c ∈ s, c.isAlpha = false) (h : sameLetters s t) : s = t := by
  have hself {c : Char} (hc : c.isAlpha = false) : c.toLower = c :=
    Char.toLower_eq_of_not_isUpper fun hupper ↦ by simp [Char.isAlpha, hupper] at hc
  have ht : ∀ c ∈ t, c.isAlpha = false := by
    intro c hc
    obtain ⟨d, hd, heq⟩ := exists_isAlpha_eq h hc
    rw [← heq]
    exact hs d hd
  calc s = s.map Char.toLower := ((List.map_congr_left fun c hc ↦ hself (hs c hc)).trans
        (List.map_id s)).symm
    _ = t.map Char.toLower := sameLetters_iff.mp h
    _ = t := (List.map_congr_left fun c hc ↦ hself (ht c hc)).trans (List.map_id t)

namespace IsKeyword

variable (hword : IsKeyword word)
include hword

theorem of_sameLetters (h : sameLetters word s) : IsKeyword s := by
  refine ⟨?_, isAlpha_of_sameLetters hword.isAlpha h⟩
  rintro rfl
  exact hword.ne_nil (List.map_eq_nil_iff.mp (sameLetters_iff.mp h))

theorem isWord : IsWord word :=
  ⟨hword.ne_nil, fun c hc ↦ isBlank_of_isAlpha (hword.isAlpha c hc)⟩

end IsKeyword

end Letters

section Upper

variable {s word : List Char}

theorem upper_append (s t : List Char) : upper (s ++ t) = upper s ++ upper t :=
  List.flatMap_append

theorem upper_of_forall_lt (h : ∀ c ∈ s, c.toNat < 128) : upper s = s.map Char.toUpper := by
  induction s with
  | nil => rfl
  | cons c s ih =>
    obtain ⟨hc, hs⟩ := List.forall_mem_cons.mp h
    have hcapitals : capitals c = [c.toUpper] := by
      unfold capitals
      rw [if_pos hc]
    rw [upper, List.flatMap_cons, hcapitals, ← upper, ih hs, List.map_cons, List.singleton_append]

theorem upper_eq_of_sameLetters (hword : ∀ c ∈ word, c.isUpper) (h : sameLetters word s) :
    upper s = word := by
  have halpha : ∀ c ∈ s, c.isAlpha := by
    apply isAlpha_of_sameLetters _ h
    intro c hc
    rw [Char.isAlpha, hword c hc, Bool.true_or]
  have hs : ∀ c ∈ s, c.toNat < 128 := by
    intro c hc
    have hc := isAlpha_iff.mp (halpha c hc)
    omega
  have hself : ∀ c ∈ word, c.toUpper = c := by
    intro c hc
    have hc := isUpper_iff.mp (hword c hc)
    apply Char.toUpper_eq_of_not_isLower
    rw [isLower_iff]
    omega
  calc upper s = (s.map Char.toLower).map Char.toUpper := by
        simp only [upper_of_forall_lt hs, List.map_map, Function.comp_def,
          Char.toUpper_toLower_eq_toUpper]
    _ = (word.map Char.toLower).map Char.toUpper := by rw [sameLetters_iff.mp h]
    _ = word := by
        simp only [List.map_map, Function.comp_def, Char.toUpper_toLower_eq_toUpper]
        exact (List.map_congr_left hself).trans (List.map_id word)

theorem sameLetters_of_upper_eq (hs : ∀ c ∈ s, c.toNat < 128) (h : upper s = word) :
    sameLetters word s := by
  rw [sameLetters_iff, ← h, upper_of_forall_lt hs, List.map_map]
  exact List.map_congr_left fun c _ ↦ Char.toLower_toUpper_eq_toLower c

theorem toUpper_eq_iff {c d : Char} (hd : d.isAlpha = false) : c.toUpper = d ↔ c = d := by
  by_cases hlower : c.isLower
  · have hc : c.isAlpha := by rw [Char.isAlpha, hlower, Bool.or_true]
    constructor
    · rintro rfl
      rw [Char.isAlpha_toUpper_eq_isAlpha, hc] at hd
      cases hd
    · rintro rfl
      rw [hc] at hd
      cases hd
  · rw [Char.toUpper_eq_of_not_isLower hlower]

end Upper

section Search

variable {word spelled name rest s : List Char} {c : Char}

theorem afterWord?_append (h : sameLetters word spelled) (rest : List Char) :
    afterWord? word (spelled ++ rest) = some rest := by
  have hlength : word.length = spelled.length := by
    simpa using congrArg List.length (sameLetters_iff.mp h)
  rw [afterWord?, hlength, List.take_left, List.drop_left, if_pos h]

theorem afterWholeWord?_append (h : sameLetters word spelled)
    (hrest : ∀ c ∈ rest.head?, isBlank c) : afterWholeWord? word (spelled ++ rest) = some rest := by
  rw [afterWholeWord?, afterWord?_append h, Option.filter_some, if_pos]
  rwa [Option.all_eq_true]

theorem exists_of_afterWholeWord? (h : afterWholeWord? word s = some rest) :
    ∃ spelled, s = spelled ++ rest ∧ sameLetters word spelled ∧ ∀ c ∈ rest.head?, isBlank c := by
  rw [afterWholeWord?, Option.filter_eq_some_iff] at h
  obtain ⟨hafter, hblank⟩ := h
  rw [afterWord?, Option.ite_none_right_eq_some] at hafter
  obtain ⟨hsame, hrest⟩ := hafter
  obtain rfl := Option.some.inj hrest
  refine ⟨s.take word.length, (List.take_append_drop _ s).symm, hsame, ?_⟩
  rwa [Option.all_eq_true] at hblank

/-- A name that is another word is not taken for the keyword, if no letter follows it. -/
theorem afterWholeWord?_name (hword : IsKeyword word) (hname : IsWord name)
    (hother : sameLetters word name = false) (hs : ∀ c ∈ s.head?, c.isAlpha = false) :
    afterWholeWord? word (name ++ s) = none := by
  rw [Option.eq_none_iff_forall_ne_some]
  intro rest hrest
  obtain ⟨spelled, heq, hsame, hblank⟩ := exists_of_afterWholeWord? hrest
  have halpha := (hword.of_sameLetters hsame).isAlpha
  rcases List.append_eq_append_iff.mp heq with ⟨t, rfl, hs'⟩ | ⟨t, rfl, hrest'⟩
  · cases t with
    | nil => simp_all
    | cons c t =>
      have hc := hs c (by rw [hs']; rfl)
      rw [halpha c (by simp)] at hc
      cases hc
  · cases t with
    | nil => simp_all
    | cons c t =>
      have hc := hblank c (by rw [hrest']; rfl)
      rw [hname.not_blank c (by simp)] at hc
      cases hc

theorem afterWholeWord?_cons (hword : IsKeyword word) (hc : c.isAlpha = false) (s : List Char) :
    afterWholeWord? word (c :: s) = none := by
  rw [Option.eq_none_iff_forall_ne_some]
  intro rest hrest
  obtain ⟨spelled, heq, hsame, -⟩ := exists_of_afterWholeWord? hrest
  obtain ⟨hne, halpha⟩ := hword.of_sameLetters hsame
  obtain ⟨d, spelled, rfl⟩ := List.exists_cons_of_ne_nil hne
  obtain ⟨rfl, -⟩ := List.cons.inj heq
  rw [halpha c List.mem_cons_self] at hc
  cases hc

theorem cutAtWord?_spelled (hword : IsKeyword word) (h : sameLetters word spelled)
    (hrest : ∀ c ∈ rest.head?, isBlank c) :
    cutAtWord? word true (spelled ++ rest) = some ([], rest) := by
  have hafter := afterWholeWord?_append h hrest
  obtain ⟨c, spelled, rfl⟩ := List.exists_cons_of_ne_nil (hword.of_sameLetters h).ne_nil
  rw [List.cons_append] at hafter ⊢
  rw [cutAtWord?, if_pos rfl, hafter]

theorem cutAtWord?_cons (hword : IsKeyword word) (hc : c.isAlpha = false) (start : Bool)
    (s : List Char) : cutAtWord? word start (c :: s) =
      (cutAtWord? word (isBlank c) s).map fun r ↦ (c :: r.1, r.2) := by
  rw [cutAtWord?, afterWholeWord?_cons hword hc, ite_self]

/-- Within a word the search goes on to its end. -/
theorem cutAtWord?_within (hname : ∀ c ∈ name, isBlank c = false) (s : List Char) :
    cutAtWord? word false (name ++ s) =
      (cutAtWord? word false s).map fun r ↦ (name ++ r.1, r.2) := by
  induction name with
  | nil => simp
  | cons c name ih =>
    obtain ⟨hc, hname⟩ := List.forall_mem_cons.mp hname
    rw [List.cons_append, cutAtWord?, if_neg Bool.false_ne_true, hc, ih hname, Option.map_map]
    rfl

theorem cutAtWord?_name (hword : IsKeyword word) (hname : IsWord name)
    (hother : sameLetters word name = false) (hs : ∀ c ∈ s.head?, c.isAlpha = false)
    (start : Bool) : cutAtWord? word start (name ++ s) =
      (cutAtWord? word false s).map fun r ↦ (name ++ r.1, r.2) := by
  have hafter := afterWholeWord?_name hword hname hother hs
  rw [← cutAtWord?_within hname.not_blank]
  obtain ⟨c, name, rfl⟩ := List.exists_cons_of_ne_nil hname.ne_nil
  rw [List.cons_append] at hafter ⊢
  rw [cutAtWord?, cutAtWord?, hafter, ite_self, if_neg Bool.false_ne_true]

/-- What has no letters in it has no keyword in it either. -/
theorem cutAtWord?_append_cons (hword : IsKeyword word) (hs : ∀ d ∈ s, d.isAlpha = false)
    (hc : c.isAlpha = false) (start : Bool) (t : List Char) :
    cutAtWord? word start (s ++ c :: t) =
      (cutAtWord? word (isBlank c) t).map fun r ↦ (s ++ c :: r.1, r.2) := by
  induction s generalizing start with
  | nil => exact cutAtWord?_cons hword hc start t
  | cons d s ih =>
    obtain ⟨hd, hs⟩ := List.forall_mem_cons.mp hs
    rw [List.cons_append, cutAtWord?_cons hword hd, ih hs, Option.map_map]
    rfl

theorem cutAtWord?_gap (hword : IsKeyword word) {gap : List Char} (hgap : IsGap gap) (start : Bool)
    (s : List Char) : cutAtWord? word start (gap ++ s) =
      (cutAtWord? word true s).map fun r ↦ (gap ++ r.1, r.2) := by
  obtain ⟨blanks, c, rfl⟩ := (List.eq_nil_or_concat' gap).resolve_left hgap.ne_nil
  obtain ⟨hblanks, hc⟩ := List.forall_mem_append.mp hgap.blanks
  have hc := hc c List.mem_cons_self
  have halpha : ∀ d ∈ blanks, d.isAlpha = false := fun d hd ↦ isAlpha_of_isBlank (hblanks d hd)
  simp only [List.append_assoc, List.singleton_append]
  rw [cutAtWord?_append_cons hword halpha (isAlpha_of_isBlank hc), hc]

theorem cutAtWord?_blanks_name (hword : IsKeyword word) {blanks : List Char}
    (hblanks : IsBlanks blanks) (hname : IsWord name) (hother : sameLetters word name = false)
    (hs : ∀ c ∈ s.head?, c.isAlpha = false) (start : Bool) :
    cutAtWord? word start (blanks ++ (name ++ s)) =
      (cutAtWord? word false s).map fun r ↦ (blanks ++ (name ++ r.1), r.2) := by
  by_cases hne : blanks = []
  · subst hne
    exact cutAtWord?_name hword hname hother hs start
  · rw [cutAtWord?_gap hword ⟨hne, hblanks⟩, cutAtWord?_name hword hname hother hs, Option.map_map]
    rfl

end Search

end TableFile.Text
