import TableFile.Proofs.Text.Keyword

namespace TableFile.Text

def standIns : List Char :=
  ['ı', 'ſ', 'ﬅ', 'ﬆ']

def plainLetters : Char → List Char
  | 'ı' => ['i']
  | 'ſ' => ['s']
  | 'ﬅ' => ['s', 't']
  | 'ﬆ' => ['s', 't']
  | c => [c]

/-- Whether a text is the word in some case, but for characters that stand in for letters. -/
def readsAs (word s : List Char) : Bool :=
  sameLetters word (s.flatMap plainLetters)

section Characters

variable {c d : Char}

theorem plainLetters_of_not_mem (h : c ∉ standIns) : plainLetters c = [c] := by
  unfold plainLetters
  split
  · exact absurd (by decide) h
  · exact absurd (by decide) h
  · exact absurd (by decide) h
  · exact absurd (by decide) h
  · rfl

theorem not_mem_of_mem_plainLetters (h : d ∈ plainLetters c) : d ∉ standIns := by
  have hplain : ∀ c ∈ standIns, ∀ d ∈ plainLetters c, d ∉ standIns := by
    simp [standIns, plainLetters]
  by_cases hc : c ∈ standIns
  · exact hplain c hc d h
  · rw [plainLetters_of_not_mem hc, List.mem_singleton] at h
    rwa [h]

theorem upper_plainLetters (c : Char) : upper (plainLetters c) = capitals c := by
  have hstandIns : ∀ c ∈ standIns, upper (plainLetters c) = capitals c := by
    simp [standIns, plainLetters, upper, capitals]
  by_cases hc : c ∈ standIns
  · exact hstandIns c hc
  · rw [plainLetters_of_not_mem hc, upper, List.flatMap_singleton]

/-- The capitals of the further characters that have ASCII letters in theirs. -/
def foreignCapitals : List (List Char) :=
  [['S', 'S'], ['ʼ', 'N'], ['J', '\u030C'], ['H', '\u0331'], ['T', '\u0308'], ['W', '\u030A'],
    ['Y', '\u030A'], ['A', 'ʾ'], ['F', 'F'], ['F', 'I'], ['F', 'L'], ['F', 'F', 'I'],
    ['F', 'F', 'L']]

theorem capitals_cases (c : Char) :
    c.toNat < 128 ∧ capitals c = [c.toUpper] ∨ c ∈ standIns ∨ capitals c ∈ foreignCapitals ∨
      capitals c = [c] := by
  unfold capitals
  split
  · next hascii => exact .inl ⟨hascii, rfl⟩
  · split
    case h_18 => exact .inr (.inr (.inr rfl))
    all_goals simp [standIns, foreignCapitals]

/-- What is no letter is not in the capitals of any other character. -/
theorem eq_of_mem_capitals (hascii : d.toNat < 128) (halpha : d.isAlpha = false)
    (h : d ∈ capitals c) : c = d := by
  have hstandIns : ∀ c ∈ standIns, ∀ d ∈ capitals c, d.isAlpha := by
    simp [standIns, capitals]
  have hforeign : ∀ s ∈ foreignCapitals, ∀ d ∈ s, d.toNat < 128 → d.isAlpha := by
    simp [foreignCapitals]
  obtain ⟨-, hcapitals⟩ | hc | hc | hcapitals := capitals_cases c
  · rw [hcapitals, List.mem_singleton] at h
    exact (toUpper_eq_iff halpha).mp h.symm
  · rw [hstandIns c hc d h] at halpha
    cases halpha
  · rw [hforeign _ hc d h hascii] at halpha
    cases halpha
  · rw [hcapitals, List.mem_singleton] at h
    exact h.symm

end Characters

section Words

variable {s word : List Char}

theorem upper_flatMap_plainLetters (s : List Char) : upper (s.flatMap plainLetters) = upper s := by
  rw [upper, List.flatMap_assoc, upper]
  exact congrArg s.flatMap (funext upper_plainLetters)

/-- Of the characters that are not ASCII, only the four become part of a word in capitals, if no
two of its letters can come from one further character. -/
theorem toNat_lt_of_capitals_infix (hword : ∀ c ∈ word, c.isUpper)
    (hforeign : ∀ t ∈ foreignCapitals, ¬t <:+: word) {c : Char} (hc : c ∉ standIns)
    (h : capitals c <:+: word) : c.toNat < 128 := by
  obtain ⟨hascii, -⟩ | hstandIn | hcapitals | hcapitals := capitals_cases c
  · exact hascii
  · exact absurd hstandIn hc
  · exact absurd h (hforeign _ hcapitals)
  · rw [hcapitals] at h
    have hupper := isUpper_iff.mp (hword c (h.subset List.mem_cons_self))
    omega

theorem upper_eq_iff_readsAs (hword : ∀ c ∈ word, c.isUpper)
    (hforeign : ∀ t ∈ foreignCapitals, ¬t <:+: word) : upper s = word ↔ readsAs word s := by
  rw [← upper_flatMap_plainLetters]
  constructor
  · intro h
    apply sameLetters_of_upper_eq _ h
    intro c hc
    obtain ⟨d, -, hd⟩ := List.mem_flatMap.mp hc
    apply toNat_lt_of_capitals_infix hword hforeign (not_mem_of_mem_plainLetters hd)
    rw [← h]
    exact List.infix_flatMap_of_mem hc capitals
  · exact upper_eq_of_sameLetters hword

theorem readsAs_of_forall_not_mem (h : ∀ c ∈ s, c ∉ standIns) (word : List Char) :
    readsAs word s = sameLetters word s := by
  have hplain : s.flatMap plainLetters = s := by
    rw [List.flatMap_congr fun c hc ↦ plainLetters_of_not_mem (h c hc), List.flatMap_singleton']
  rw [readsAs, hplain]

end Words

end TableFile.Text
