namespace TableFile.Text

def extendFirst (c : Char) : List (List Char) → List (List Char)
  | [] => [[c]]
  | piece :: pieces => (c :: piece) :: pieces

def splitWhere (p : Char → Bool) : List Char → List (List Char)
  | [] => [[]]
  | c :: s => if p c then [] :: splitWhere p s else extendFirst c (splitWhere p s)

theorem extendFirst_ne_nil (c : Char) (pieces : List (List Char)) : extendFirst c pieces ≠ [] := by
  cases pieces <;> simp [extendFirst]

theorem splitWhere_ne_nil (p : Char → Bool) (s : List Char) : splitWhere p s ≠ [] := by
  cases s with
  | nil => simp [splitWhere]
  | cons c s =>
    rw [splitWhere]
    split
    · simp
    · exact extendFirst_ne_nil c _

theorem extendFirst_append (c : Char) {pieces : List (List Char)} (h : pieces ≠ [])
    (others : List (List Char)) :
    extendFirst c (pieces ++ others) = extendFirst c pieces ++ others := by
  obtain ⟨piece, pieces, rfl⟩ := List.exists_cons_of_ne_nil h
  rfl

theorem foldr_extendFirst (s piece : List Char) (pieces : List (List Char)) :
    s.foldr extendFirst (piece :: pieces) = (s ++ piece) :: pieces := by
  induction s with
  | nil => rfl
  | cons c s ih => rw [List.foldr_cons, ih, extendFirst, List.cons_append]

theorem splitWhere_append_cons {p : Char → Bool} {c : Char} (hc : p c) (s t : List Char) :
    splitWhere p (s ++ c :: t) = splitWhere p s ++ splitWhere p t := by
  induction s with
  | nil => simp only [List.nil_append, splitWhere, hc, if_true, List.singleton_append]
  | cons d s ih =>
    rw [List.cons_append, splitWhere, splitWhere, ih]
    split
    · rfl
    · exact extendFirst_append d (splitWhere_ne_nil p s) _

theorem splitWhere_of_forall {p : Char → Bool} {s : List Char} (h : ∀ c ∈ s, p c = false) :
    splitWhere p s = [s] := by
  induction s with
  | nil => rfl
  | cons c s ih =>
    obtain ⟨hc, hs⟩ := List.forall_mem_cons.mp h
    rw [splitWhere, hc, ih hs]
    rfl

theorem intercalate_extendFirst (c : Char) (sep : List Char) {pieces : List (List Char)}
    (h : pieces ≠ []) : sep.intercalate (extendFirst c pieces) = c :: sep.intercalate pieces := by
  match pieces, h with
  | [piece], _ => simp [extendFirst, List.intercalate]
  | piece :: other :: pieces, _ => simp [extendFirst, List.intercalate]

theorem intercalate_splitWhere (mark : Char) (s : List Char) :
    [mark].intercalate (splitWhere (· = mark) s) = s := by
  induction s with
  | nil => simp [splitWhere, List.intercalate]
  | cons c s ih =>
    have hs := splitWhere_ne_nil (· = mark) s
    rw [splitWhere]
    split
    · next hc =>
      obtain ⟨piece, pieces, hp⟩ := List.exists_cons_of_ne_nil hs
      rw [hp] at ih ⊢
      simp_all [List.intercalate]
    · rw [intercalate_extendFirst c _ hs, ih]

theorem not_mem_of_mem_splitWhere {mark : Char} {s piece : List Char}
    (h : piece ∈ splitWhere (· = mark) s) : mark ∉ piece := by
  induction s generalizing piece with
  | nil =>
    rw [List.mem_singleton.mp h]
    exact List.not_mem_nil
  | cons c s ih =>
    obtain ⟨first, others, hs⟩ := List.exists_cons_of_ne_nil (splitWhere_ne_nil (· = mark) s)
    rw [splitWhere, hs] at h
    rw [hs] at ih
    split at h
    · rcases List.mem_cons.mp h with rfl | h
      · exact List.not_mem_nil
      · exact ih h
    · next hc =>
      rcases List.mem_cons.mp h with rfl | h
      · intro hmark
        rcases List.mem_cons.mp hmark with rfl | hmark
        · exact hc (decide_eq_true rfl)
        · exact ih List.mem_cons_self hmark
      · exact ih (List.mem_cons_of_mem first h)

/-- Pieces without the mark are what the text that joins them with the mark is cut into. -/
theorem splitWhere_intercalate {mark : Char} {pieces : List (List Char)} (hne : pieces ≠ [])
    (h : ∀ piece ∈ pieces, mark ∉ piece) :
    splitWhere (· = mark) ([mark].intercalate pieces) = pieces := by
  have hsingle {piece : List Char} (hpiece : mark ∉ piece) :
      splitWhere (· = mark) piece = [piece] := by
    apply splitWhere_of_forall
    intro c hc
    rw [decide_eq_false_iff_not]
    rintro rfl
    exact hpiece hc
  match pieces, hne with
  | [piece], _ =>
    have hjoin : [mark].intercalate [piece] = piece := by simp [List.intercalate]
    rw [hjoin, hsingle (h piece List.mem_cons_self)]
  | piece :: next :: pieces, _ =>
    have hjoin : [mark].intercalate (piece :: next :: pieces) =
        piece ++ mark :: [mark].intercalate (next :: pieces) := by
      simp [List.intercalate]
    obtain ⟨hpiece, hpieces⟩ := List.forall_mem_cons.mp h
    rw [hjoin, splitWhere_append_cons (decide_eq_true rfl), hsingle hpiece,
      splitWhere_intercalate (List.cons_ne_nil next pieces) hpieces]
    rfl

end TableFile.Text
