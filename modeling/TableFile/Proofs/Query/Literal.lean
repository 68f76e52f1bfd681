import TableFile.Proofs.Text.Blank
import TableFile.Query.Literal

namespace TableFile.Query.Literal

open Text

variable {content rest s word : List Char}

def double (c : Char) : List Char :=
  if c = '\x27' then ['\x27', '\x27'] else [c]

def write (content : List Char) : List Char :=
  '\x27' :: (content.flatMap double ++ ['\x27'])

theorem getLast?_append_write (s content : List Char) :
    (s ++ write content).getLast? = some '\x27' := by
  rw [write, ← List.cons_append, ← List.append_assoc, List.getLast?_concat]

theorem isTrimmed_write (content : List Char) : IsTrimmed (write content) := by
  refine ⟨fun c hc ↦ ?_, fun c hc ↦ ?_⟩
  · obtain rfl := Option.some.inj hc
    rfl
  · obtain rfl := Option.some.inj ((getLast?_append_write [] content).symm.trans hc)
    rfl

theorem trim_write (content : List Char) : trim (write content) = write content :=
  (isTrimmed_write content).trim_eq

theorem quoted?_double (c : Char) (s : List Char) :
    quoted? (double c ++ s) = (quoted? s).map fun r ↦ (c :: r.1, r.2) := by
  by_cases hc : c = '\x27'
  · subst hc
    rfl
  · have hdouble : double c ++ s = c :: s := by
      rw [double, if_neg hc, List.singleton_append]
    rw [hdouble, quoted?.eq_4]
    · intro _ h
      exact absurd h hc
    · intro h
      exact absurd h hc

theorem quoted?_append (content : List Char) (hrest : rest.head? ≠ some '\x27') :
    quoted? (content.flatMap double ++ '\x27' :: rest) = some (content, rest) := by
  induction content with
  | nil =>
    rw [List.flatMap_nil, List.nil_append, quoted?.eq_3]
    rintro t rfl
    exact hrest rfl
  | cons c content ih =>
    rw [List.flatMap_cons, List.append_assoc, quoted?_double, ih]
    rfl

/-- What is read in quotes is what was written in them, and the closing quote is no doubled one. -/
theorem eq_of_quoted? (h : quoted? s = some (content, rest)) :
    s = content.flatMap double ++ '\x27' :: rest ∧ rest.head? ≠ some '\x27' := by
  fun_induction quoted? s generalizing content with
  | case1 => cases h
  | case2 s ih =>
    obtain ⟨⟨content, rest⟩, hinner, heq⟩ := Option.map_eq_some_iff.mp h
    obtain ⟨rfl, rfl⟩ := Prod.mk.inj heq
    obtain ⟨rfl, hrest⟩ := ih hinner
    exact ⟨rfl, hrest⟩
  | case3 s hs =>
    obtain ⟨rfl, rfl⟩ := Prod.mk.inj (Option.some.inj h)
    refine ⟨rfl, fun hhead ↦ ?_⟩
    obtain ⟨t, rfl⟩ := List.head?_eq_some_iff.mp hhead
    exact hs t rfl
  | case4 c s _ hc ih =>
    obtain ⟨⟨content, rest⟩, hinner, heq⟩ := Option.map_eq_some_iff.mp h
    obtain ⟨rfl, rfl⟩ := Prod.mk.inj heq
    obtain ⟨rfl, hrest⟩ := ih hinner
    refine ⟨?_, hrest⟩
    rw [List.flatMap_cons, double, if_neg hc]
    rfl

theorem parse_write_append (content : List Char) (hrest : rest.head? ≠ some '\x27') :
    parse (write content ++ rest) =
      if trim rest = [] then .ok (.ofList content)
      else .error (.badQuery (.afterLiteral (.ofList (trim rest)))) := by
  rw [write, List.cons_append, List.append_assoc, List.singleton_append, parse,
    quoted?_append content hrest]

theorem parse_write (content : List Char) : parse (write content) = .ok (.ofList content) := by
  have hend : ([] : List Char).head? ≠ some '\x27' := by simp
  have happend := parse_write_append content hend
  rwa [List.append_nil] at happend

section Bare

theorem parse_of_head?_ne (h : s.head? ≠ some '\x27') :
    parse s = if s = [] ∨ s.any isBlank ∨ '\x27' ∈ s then
      .error (.badQuery (.notOneLiteral (.ofList s))) else .ok (.ofList s) := by
  rw [parse.eq_2]
  rintro inner rfl
  exact h rfl

theorem head?_ne_of_not_mem (h : '\x27' ∉ s) : s.head? ≠ some '\x27' :=
  fun hhead ↦ h (List.mem_of_mem_head? hhead)

theorem parse_word (hword : IsWord word) (hquote : '\x27' ∉ word) :
    parse word = .ok (.ofList word) := by
  have hone := isWord_iff.mp hword
  rw [parse_of_head?_ne (head?_ne_of_not_mem hquote), if_neg]
  rw [← or_assoc]
  exact not_or.mpr ⟨hone, hquote⟩

theorem parse_word_append (hword : IsWord word) (hquote : '\x27' ∉ word)
    (hrest : ∃ c ∈ rest, isBlank c ∨ c = '\x27') :
    parse (word ++ rest) = .error (.badQuery (.notOneLiteral (.ofList (word ++ rest)))) := by
  have hhead : (word ++ rest).head? ≠ some '\x27' := by
    rw [head?_append_of_ne_nil hword.ne_nil]
    exact head?_ne_of_not_mem hquote
  obtain ⟨c, hc, hend⟩ := hrest
  have hmem : c ∈ word ++ rest := List.mem_append_right word hc
  rw [parse_of_head?_ne hhead, if_pos]
  rcases hend with hblank | rfl
  · exact .inr (.inl (List.any_eq_true.mpr ⟨c, hmem, hblank⟩))
  · exact .inr (.inr hmem)

end Bare

/-- The ways to write a literal: in quotes, or as it is if it is one word without a quote. -/
inductive Spells : (content text : List Char) → Prop
  | quoted {content : List Char} : Spells content (write content)
  | bare {word : List Char} (hword : IsWord word) (hquote : '\x27' ∉ word) : Spells word word

theorem Spells.bare_of_head? (h : Spells content s) (hhead : s.head? ≠ some '\x27') :
    content = s ∧ IsWord s ∧ '\x27' ∉ s := by
  cases h with
  | quoted => exact absurd rfl hhead
  | bare hword hquote => exact ⟨rfl, hword, hquote⟩

theorem spells_of_parse (hs : IsTrimmed s) {value : String} (h : parse s = .ok value) :
    Spells value.toList s := by
  by_cases hhead : s.head? = some '\x27'
  · obtain ⟨inner, rfl⟩ := List.head?_eq_some_iff.mp hhead
    rw [parse] at h
    split at h
    · cases h
    · next content rest hinner =>
      obtain ⟨rfl, -⟩ := eq_of_quoted? hinner
      dsimp only at h
      split at h
      · next hrest =>
        obtain rfl := Except.ok.inj h
        have hwrite : '\x27' :: (content.flatMap double ++ '\x27' :: rest) =
            write content ++ rest := by
          rw [write, List.cons_append, List.append_assoc, List.singleton_append]
        rw [hwrite] at hs ⊢
        rw [hs.eq_nil_of_append (trim_eq_nil_iff.mp hrest), List.append_nil, String.toList_ofList]
        exact .quoted
      · cases h
  · rw [parse_of_head?_ne hhead] at h
    split at h
    · cases h
    · next hone =>
      obtain rfl := Except.ok.inj h
      rw [← or_assoc, not_or] at hone
      rw [String.toList_ofList]
      exact .bare (isWord_iff.mpr hone.1) hone.2

theorem Spells.parse_eq (h : Spells content s) : parse s = .ok (.ofList content) := by
  cases h with
  | quoted => exact parse_write content
  | bare hword hquote => exact parse_word hword hquote

/-- A text with no blanks around it is read as a literal if and only if it is written as one. -/
theorem parse_eq_ok_iff (hs : IsTrimmed s) {value : String} :
    parse s = .ok value ↔ Spells value.toList s := by
  constructor
  · exact spells_of_parse hs
  · intro h
    rw [h.parse_eq, String.ofList_toList]

theorem exists_fault_of_parse {e : Error} (h : parse s = .error e) :
    ∃ fault, e = .badQuery fault := by
  unfold parse at h
  split at h
  · split at h
    · exact ⟨_, (Except.error.inj h).symm⟩
    · dsimp only at h
      split at h
      · cases h
      · exact ⟨_, (Except.error.inj h).symm⟩
  · split at h
    · exact ⟨_, (Except.error.inj h).symm⟩
    · cases h

end TableFile.Query.Literal
