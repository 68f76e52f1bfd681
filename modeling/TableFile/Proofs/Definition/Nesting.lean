import TableFile.Definition.Nesting
import TableFile.Text.Identifier

namespace TableFile.Definition

open Text

def quoteEnd? (c : Char) : Option Char :=
  if c = '\x27' then some c else closingMark? c

theorem quoteEnd?_of_closingMark? {c mark : Char} (h : closingMark? c = some mark) :
    quoteEnd? c = some mark := by
  unfold quoteEnd?
  rw [if_neg]
  · exact h
  · rintro rfl
    cases h

/-- The texts that can stand in a list, and within parentheses if `nested` holds: commas only stand
there. A parenthesis that closes nothing can only stand outside. -/
inductive Closed : (nested : Bool) → List Char → Prop
  | nil {nested : Bool} : Closed nested []
  | plain {nested : Bool} {c : Char} (hquote : quoteEnd? c = none) (hcomma : c ≠ ',')
      (hopening : c ≠ '(') (hclosing : c ≠ ')') : Closed nested [c]
  | comma : Closed true [',']
  | closing : Closed false [')']
  | quoted {nested : Bool} {c mark : Char} {content : List Char} (hmark : quoteEnd? c = some mark)
      (hcontent : mark ∉ content) : Closed nested (c :: (content ++ [mark]))
  | parenthesized {nested : Bool} {inner : List Char} (hinner : Closed true inner) :
      Closed nested ('(' :: (inner ++ [')']))
  | append {nested : Bool} {s t : List Char} (hs : Closed nested s) (ht : Closed nested t) :
      Closed nested (s ++ t)

theorem Closed.of_forall {nested : Bool} {s : List Char}
    (h : ∀ c ∈ s, quoteEnd? c = none ∧ c ≠ ',' ∧ c ≠ '(' ∧ c ≠ ')') : Closed nested s := by
  induction s with
  | nil => exact .nil
  | cons c s ih =>
    obtain ⟨⟨hquote, hcomma, hopening, hclosing⟩, hs⟩ := List.forall_mem_cons.mp h
    exact (Closed.plain hquote hcomma hopening hclosing).append (ih hs)

def listMarks : List Char :=
  ['\x27', '"', '\x60', '[', ',', '(', ')']

theorem Closed.of_not_mem {nested : Bool} {s : List Char} (h : ∀ c ∈ listMarks, c ∉ s) :
    Closed nested s := by
  apply Closed.of_forall
  intro c hc
  have hne {d : Char} (hd : d ∈ listMarks) : c ≠ d := by
    rintro rfl
    exact h c hd hc
  refine ⟨?_, hne (by decide), hne (by decide), hne (by decide)⟩
  rw [quoteEnd?, if_neg (hne (by decide)), closingMark?,
    if_neg (not_or.mpr ⟨hne (by decide), hne (by decide)⟩), if_neg (hne (by decide))]

section Split

variable {depth : Nat} {c mark : Char}

theorem step_of_quoteEnd? (h : quoteEnd? c = some mark) :
    (⟨depth, none⟩ : Nesting).step c = ⟨depth, some mark⟩ := by
  unfold quoteEnd? closingMark? at h
  unfold Nesting.step
  grind

theorem step_of_plain (hquote : quoteEnd? c = none) (hopening : c ≠ '(') (hclosing : c ≠ ')') :
    (⟨depth, none⟩ : Nesting).step c = ⟨depth, none⟩ := by
  unfold quoteEnd? closingMark? at hquote
  unfold Nesting.step
  grind

theorem splitFrom_cons {s : Nesting} (h : ¬(c = ',' ∧ s = .outside)) (text : List Char) :
    splitFrom s (c :: text) = extendFirst c (splitFrom (s.step c) text) := by
  rw [splitFrom, if_neg h]

/-- Up to its closing mark nothing in a quote counts. -/
theorem splitFrom_quote {content : List Char} (h : mark ∉ content) (rest : List Char) :
    splitFrom ⟨depth, some mark⟩ (content ++ mark :: rest) =
      (content ++ [mark]).foldr extendFirst (splitFrom ⟨depth, none⟩ rest) := by
  induction content with
  | nil =>
    rw [List.nil_append, splitFrom_cons (by simp [Nesting.outside])]
    simp [Nesting.step]
  | cons c content ih =>
    obtain ⟨hc, hcontent⟩ := List.ne_and_not_mem_of_not_mem_cons h
    have hstep : (⟨depth, some mark⟩ : Nesting).step c = ⟨depth, some mark⟩ :=
      if_neg (Ne.symm hc)
    rw [List.cons_append, splitFrom_cons (by simp [Nesting.outside]), hstep, ih hcontent]
    rfl

/-- The scan leaves a closed text as deep as it came to it. -/
theorem splitFrom_append {nested : Bool} {text : List Char} (h : Closed nested text)
    (hnested : nested = true ↔ 0 < depth) (rest : List Char) :
    splitFrom ⟨depth, none⟩ (text ++ rest) =
      text.foldr extendFirst (splitFrom ⟨depth, none⟩ rest) := by
  induction h generalizing depth rest with
  | nil => rfl
  | plain hquote hcomma hopening hclosing =>
    rw [List.singleton_append, splitFrom_cons (fun h ↦ hcomma h.1),
      step_of_plain hquote hopening hclosing]
    rfl
  | comma =>
    have hdepth : 0 < depth := hnested.mp rfl
    have houtside : ¬(',' = ',' ∧ (⟨depth, none⟩ : Nesting) = .outside) := by
      rintro ⟨-, h⟩
      have hzero : depth = 0 := congrArg Nesting.depth h
      omega
    rw [List.singleton_append, splitFrom_cons houtside]
    rfl
  | closing =>
    obtain rfl : depth = 0 := by
      apply Nat.eq_zero_of_not_pos
      intro hdepth
      cases hnested.mpr hdepth
    rfl
  | @quoted _ c mark content hmark hcontent =>
    have hcomma : c ≠ ',' := by
      rintro rfl
      cases hmark
    rw [List.cons_append, splitFrom_cons (fun h ↦ hcomma h.1), step_of_quoteEnd? hmark,
      List.append_assoc, List.singleton_append, splitFrom_quote hcontent]
    rfl
  | @parenthesized _ inner _ ih =>
    have hdepth : true = true ↔ 0 < depth + 1 := ⟨fun _ ↦ Nat.succ_pos depth, fun _ ↦ rfl⟩
    rw [List.cons_append, splitFrom_cons (fun h ↦ absurd h.1 (by decide)), List.append_assoc]
    change extendFirst '(' (splitFrom ⟨depth + 1, none⟩ (inner ++ ')' :: rest)) = _
    rw [ih hdepth, splitFrom_cons (fun h ↦ absurd h.1 (by decide)), List.foldr_cons,
      List.foldr_append]
    rfl
  | append _ _ ihs iht =>
    rw [List.append_assoc, ihs hnested, iht hnested, List.foldr_append]

variable {item list : List Char}

theorem splitItems_closed (h : Closed false item) : splitItems item = [item] := by
  have houtside : false = true ↔ 0 < 0 := by simp
  have hsplit := splitFrom_append h houtside []
  rw [List.append_nil, splitFrom, foldr_extendFirst, List.append_nil] at hsplit
  exact hsplit

theorem splitItems_append_cons (h : Closed false item) :
    splitItems (item ++ ',' :: list) = item :: splitItems list := by
  have houtside : false = true ↔ 0 < 0 := by simp
  have hsplit := splitFrom_append h houtside (',' :: list)
  rw [splitFrom, if_pos ⟨rfl, rfl⟩, foldr_extendFirst, List.append_nil] at hsplit
  exact hsplit

theorem splitFrom_ne_nil (s : Nesting) (text : List Char) : splitFrom s text ≠ [] := by
  cases text with
  | nil => simp [splitFrom]
  | cons c text =>
    rw [splitFrom]
    split
    · simp
    · exact extendFirst_ne_nil c _

theorem headD_splitItems_append (h : Closed false item) (list : List Char) :
    (splitItems (item ++ list)).headD [] = item ++ (splitItems list).headD [] := by
  have houtside : false = true ↔ 0 < 0 := by simp
  have hsplit : splitItems (item ++ list) = item.foldr extendFirst (splitItems list) :=
    splitFrom_append h houtside list
  obtain ⟨first, others, hlist⟩ := List.exists_cons_of_ne_nil (splitFrom_ne_nil .outside list)
  rw [hsplit, splitItems, hlist, foldr_extendFirst]
  rfl

end Split

end TableFile.Definition
