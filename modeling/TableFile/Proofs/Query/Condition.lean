import TableFile.Proofs.Query.Spelling

namespace TableFile

open Text

namespace Predicate

section Operator

variable {sign next : Char} {operator : Operator}

theorem eq_sign_of_operatorAt {after : Option Char} (h : operatorAt sign after = .ok operator) :
    sign = operator.sign := by
  unfold operatorAt at h
  split at h
  · rw [← Except.ok.inj h, Operator.sign]
  · split at h
    · cases h
    · rw [← Except.ok.inj h, Operator.sign]
  · split at h
    · cases h
    · rw [← Except.ok.inj h, Operator.sign]
  · cases h

theorem standsBefore_of_operatorAt (h : operatorAt sign (some next) = .ok operator) :
    operator.StandsBefore next := by
  obtain rfl := eq_sign_of_operatorAt h
  cases operator with
  | equal => trivial
  | greater =>
    intro hnext
    rw [Operator.sign, operatorAt, if_pos hnext] at h
    cases h
  | less =>
    refine not_or.mp fun hnext ↦ ?_
    rw [Operator.sign, operatorAt, if_pos hnext] at h
    cases h

end Operator

/-- The signs of operators in a text that stand next to each other, from the first one on. -/
def signs (text : List Char) : List Char :=
  (text.dropWhile (!isOperatorSign ·)).takeWhile isOperatorSign

/-- A clause with signs behind its operator that are taken for the beginning of the literal. -/
inductive Misread : List Char → Predicate → Prop
  | mk {front literal after : List Char} {operator : Operator} {next : Char}
      (hfront : ∀ c ∈ front, isOperatorSign c = false) (hcolumn : unquote (trim front) ≠ [])
      (hnext : isOperatorSign next) (hstands : operator.StandsBefore next)
      (hword : IsWord (next :: literal)) (hquote : '\x27' ∉ literal) (hafter : IsBlanks after) :
      Misread (front ++ (operator.symbol.toList ++ (next :: (literal ++ after))))
        ⟨.ofList (unquote (trim front)), operator, .ofList (next :: literal)⟩

section Signs

variable {front rest text : List Char} {sign next : Char} {predicate : Predicate}

theorem signs_append_cons (hfront : ∀ c ∈ front, isOperatorSign c = false)
    (hsign : isOperatorSign sign) (rest : List Char) :
    signs (front ++ sign :: rest) = sign :: rest.takeWhile isOperatorSign := by
  have hgo : ∀ c ∈ front, (!isOperatorSign c) = true := by
    intro c hc
    rw [hfront c hc, Bool.not_false]
  have hstop : ∀ c ∈ (sign :: rest).head?, (!isOperatorSign c) = false := by
    rintro c ⟨⟩
    rw [hsign, Bool.not_true]
  rw [signs, dropWhile_append_eq hgo hstop, List.takeWhile_cons_of_pos hsign]

theorem dropWhile_of_forall (h : ∀ c ∈ text, isOperatorSign c = false) :
    text.dropWhile (!isOperatorSign ·) = [] := by
  rw [List.dropWhile_eq_nil_iff]
  intro c hc
  rw [h c hc, Bool.not_false]

theorem signs_of_forall (h : ∀ c ∈ text, isOperatorSign c = false) : signs text = [] := by
  rw [signs, dropWhile_of_forall h, List.takeWhile_nil]

theorem ofText_of_forall (h : ∀ c ∈ text, isOperatorSign c = false) :
    ofText text = .error (.badQuery (.noOperator (.ofList (trim text)))) := by
  have hnone := dropWhile_of_forall fun c hc ↦ h c ((isInfix_trim text).subset hc)
  rw [ofText]
  simp only [hnone]

/-- A clause without signs, or cut at the first of them. -/
theorem forall_or_exists_sign (text : List Char) : (∀ c ∈ text, isOperatorSign c = false) ∨
    ∃ front sign rest, text = front ++ sign :: rest ∧
      (∀ c ∈ front, isOperatorSign c = false) ∧ isOperatorSign sign := by
  cases hfind : text.find? isOperatorSign with
  | none => exact .inl (by simpa using List.find?_eq_none.mp hfind)
  | some sign =>
    obtain ⟨hsign, front, rest, rfl, hfront⟩ := List.find?_eq_some_iff_append.mp hfind
    exact .inr ⟨front, sign, rest, rfl, by simpa using hfront, hsign⟩

theorem trimEnd_cons (hnext : isOperatorSign next) (rest : List Char) :
    trimEnd (next :: rest) = next :: trimEnd rest :=
  trimEnd_append_cons (isBlank_of_isOperatorSign hnext) [] rest

theorem operatorAt_of_ofText (hfront : ∀ c ∈ front, isOperatorSign c = false)
    (hsign : isOperatorSign sign) (h : ofText (front ++ sign :: rest) = .ok predicate) :
    operatorAt sign (trimEnd rest).head? = .ok predicate.operator ∧ unquote (trim front) ≠ [] ∧
      predicate.column = .ofList (unquote (trim front)) ∧
      Query.Literal.parse (trim rest) = .ok predicate.value := by
  rw [ofText_append_cons hfront hsign] at h
  obtain ⟨operator, hoperator, h⟩ := Except.bind_eq_ok_iff.mp h
  split at h
  · cases h
  · next hcolumn =>
    obtain ⟨value, hvalue, h⟩ := Except.bind_eq_ok_iff.mp h
    obtain rfl := Except.ok.inj h
    exact ⟨hoperator, hcolumn, rfl, hvalue⟩

theorem exists_next_sign (hfront : ∀ c ∈ front, isOperatorSign c = false)
    (hsign : isOperatorSign sign) (h : signs (front ++ sign :: rest) ≠ [sign]) :
    ∃ next tail, rest = next :: tail ∧ isOperatorSign next := by
  rw [signs_append_cons hfront hsign] at h
  cases rest with
  | nil => exact absurd rfl h
  | cons next tail =>
    refine ⟨next, tail, rfl, ?_⟩
    by_contra hother
    apply h
    rw [List.takeWhile_cons_of_neg hother]

/-- A literal that begins with a sign is not in quotes. -/
theorem bare_of_parse (hnext : isOperatorSign next) {tail : List Char} {value : String}
    (h : Query.Literal.parse (trim (next :: tail)) = .ok value) :
    value.toList = next :: trimEnd tail ∧ IsWord (next :: trimEnd tail) ∧
      '\x27' ∉ next :: trimEnd tail := by
  have htrim : trim (next :: tail) = next :: trimEnd tail :=
    trim_append_cons (isBlank_of_isOperatorSign hnext) [] tail
  have hhead : (next :: trimEnd tail).head? ≠ some '\x27' := by
    rintro ⟨⟩
    cases hnext
  have hspells := Query.Literal.spells_of_parse (isTrimmed_trim (next :: tail)) h
  rw [htrim] at hspells
  exact hspells.bare_of_head? hhead

theorem misread_of_ofText (hsigns : ∀ operator : Operator, signs text ≠ operator.symbol.toList)
    (h : ofText text = .ok predicate) : Misread text predicate := by
  rcases forall_or_exists_sign text with hall | ⟨front, sign, rest, rfl, hfront, hsign⟩
  · rw [ofText_of_forall hall] at h
    cases h
  obtain ⟨hoperator, hcolumn, hname, hvalue⟩ := operatorAt_of_ofText hfront hsign h
  obtain rfl := eq_sign_of_operatorAt hoperator
  have hrun := hsigns predicate.operator
  rw [Operator.toList_symbol] at hrun
  obtain ⟨next, tail, rfl, hnext⟩ := exists_next_sign hfront hsign hrun
  rw [trimEnd_cons hnext] at hoperator
  obtain ⟨hcontent, hword, hquote⟩ := bare_of_parse hnext hvalue
  obtain ⟨after, hafter, htail, -⟩ := exists_trimEnd_append tail
  have hmisread := Misread.mk hfront hcolumn hnext (standsBefore_of_operatorAt hoperator) hword
    (List.not_mem_of_not_mem_cons hquote) hafter
  rw [← htail, ← hcontent, String.ofList_toList, Operator.toList_symbol, ← hname] at hmisread
  exact hmisread

theorem Misread.ofText_eq (h : Misread text predicate) : ofText text = .ok predicate := by
  obtain @⟨front, literal, after, operator, next, hfront, hcolumn, hnext, hstands, hword, hquote,
    hafter⟩ := h
  have hhead : (trimEnd (next :: (literal ++ after))).head? = some next := by
    rw [trimEnd_cons hnext, List.head?_cons]
  have htrim : trim (next :: (literal ++ after)) = next :: literal := by
    rw [← List.cons_append, trim_append_blanks _ hafter, hword.trim_eq]
  have hword' : '\x27' ∉ next :: literal := by
    rw [List.mem_cons, not_or]
    refine ⟨?_, hquote⟩
    rintro rfl
    cases hnext
  have hvalue := Query.Literal.parse_word hword hword'
  rw [Operator.toList_symbol, List.singleton_append,
    ofText_append_cons hfront (isOperatorSign_sign operator), hhead, operatorAt_sign hstands, htrim,
    hvalue, Except.ok_bind, if_neg hcolumn]
  rfl

theorem signs_eq_of_ofText (h : ofText text = .ok predicate) {operator : Operator}
    (hsigns : signs text = operator.symbol.toList) : predicate.operator = operator := by
  rcases forall_or_exists_sign text with hall | ⟨front, sign, rest, rfl, hfront, hsign⟩
  · rw [ofText_of_forall hall] at h
    cases h
  · obtain ⟨hoperator, -⟩ := operatorAt_of_ofText hfront hsign h
    rw [signs_append_cons hfront hsign, Operator.toList_symbol] at hsigns
    have hhead := (List.cons.inj hsigns).1
    exact Operator.sign_injective ((eq_sign_of_operatorAt hoperator).symm.trans hhead)

theorem ofText_of_operatorAt {e : Error} (hfront : ∀ c ∈ front, isOperatorSign c = false)
    (hsign : isOperatorSign sign) (h : operatorAt sign (trimEnd rest).head? = .error e) :
    ofText (front ++ sign :: rest) = .error e := by
  rw [ofText_append_cons hfront hsign, h]
  rfl

def refused : List String := ["!=", ">=", "<=", "<>"]

theorem exists_operatorAt_of_mem_refused {symbol : String} (h : symbol ∈ refused) :
    ∃ sign next, symbol.toList = [sign, next] ∧ isOperatorSign sign ∧ isOperatorSign next ∧
      operatorAt sign (some next) = .error (.undecidable symbol) := by
  simp only [refused, List.mem_cons, List.not_mem_nil, or_false] at h
  rcases h with rfl | rfl | rfl | rfl <;> exact ⟨_, _, rfl, rfl, rfl, rfl⟩

theorem ofText_of_refused {symbol : String} (h : symbol ∈ refused)
    (hsigns : symbol.toList <+: signs text) : ofText text = .error (.undecidable symbol) := by
  obtain ⟨first, second, hsymbol, hfirst, hsecond, hoperator⟩ := exists_operatorAt_of_mem_refused h
  rw [hsymbol] at hsigns
  rcases forall_or_exists_sign text with hall | ⟨front, sign, rest, rfl, hfront, hsign⟩
  · rw [signs_of_forall hall] at hsigns
    cases List.prefix_nil.mp hsigns
  · rw [signs_append_cons hfront hsign, List.cons_prefix_cons] at hsigns
    obtain ⟨rfl, hsigns⟩ := hsigns
    obtain ⟨tail, rfl⟩ := hsigns.trans (List.takeWhile_prefix _)
    apply ofText_of_operatorAt hfront hsign
    rwa [List.singleton_append, trimEnd_cons hsecond]

/-- The signs of a clause decide its operator if they are one. If not, the clause is read only where
all signs but the first are taken for the literal. -/
theorem parse_signs (clause : String) :
    (∀ operator : Operator, signs clause.toList = operator.symbol.toList →
      ∀ predicate, parse clause = .ok predicate → predicate.operator = operator) ∧
    ((∀ operator : Operator, signs clause.toList ≠ operator.symbol.toList) →
      ∀ predicate, parse clause = .ok predicate ↔ Misread clause.toList predicate) ∧
    (∀ symbol ∈ refused, symbol.toList <+: signs clause.toList →
      parse clause = .error (.undecidable symbol)) := by
  refine ⟨fun operator hsigns predicate h ↦ ?_, fun hsigns predicate ↦ ?_, fun symbol hmem h ↦ ?_⟩
  · exact signs_eq_of_ofText h hsigns
  · constructor
    · exact misread_of_ofText hsigns
    · exact Misread.ofText_eq
  · exact ofText_of_refused hmem h

theorem parse_signs_twoSigns :
    signs "a > '>'".toList = Operator.greater.symbol.toList ∧
    (∀ predicate, parse "a > '>'" = .ok predicate → predicate.operator = .greater) ∧
    (∀ operator : Operator, signs "a >>1 ".toList ≠ operator.symbol.toList) ∧
    parse "a >>1 " = .ok ⟨"a", .greater, ">1"⟩ ∧
    "<>".toList <+: signs "a <>= 1".toList ∧
    parse "a <>= 1" = .error (.undecidable "<>") := by
  have hone : signs "a > '>'".toList = Operator.greater.symbol.toList := by decide
  have htwo : ∀ operator : Operator, signs "a >>1 ".toList ≠ operator.symbol.toList := by
    intro operator
    cases operator <;> decide
  have hthree : "<>".toList <+: signs "a <>= 1".toList := by decide
  have hfront : ∀ c ∈ ['a', ' '], isOperatorSign c = false := by simp [isOperatorSign]
  have hcolumn : unquote (trim ['a', ' ']) ≠ [] := by decide +kernel
  have hstands : Operator.greater.StandsBefore '>' := by simp [Operator.StandsBefore]
  have hword : IsWord ['>', '1'] := ⟨by simp, by simp [isBlank]⟩
  have hblank : IsBlanks [' '] := .singleton rfl
  have hmisread := Misread.mk hfront hcolumn rfl hstands hword (by decide) hblank
  refine ⟨hone, (parse_signs _).1 _ hone, htwo, ?_, hthree, ?_⟩
  · exact ((parse_signs _).2.1 htwo _).mpr hmisread
  · exact (parse_signs _).2.2 _ (by decide) hthree

/-- An equals sign stands alone, whatever sign is behind it. -/
theorem parse_twoEquals :
    (∀ operator : Operator, signs "a==1".toList ≠ operator.symbol.toList) ∧
    parse "a==1" = .ok ⟨"a", .equal, "=1"⟩ := by
  refine ⟨fun operator ↦ ?_, by decide +kernel⟩
  cases operator <;> decide

end Signs

section Literal

open Query

variable {column : String}

/-- Behind the column and an equals sign, all that is left is the literal. -/
theorem parse_append_equal (hsigns : ∀ c ∈ column.toList, isOperatorSign c = false)
    (hcolumn : unquote (trim column.toList) ≠ []) (raw : String) :
    parse (column ++ "=" ++ raw) = do
      return ⟨.ofList (unquote (trim column.toList)), .equal,
        ← Literal.parse (trim raw.toList)⟩ := by
  have hequal : operatorAt '=' (trimEnd raw.toList).head? = .ok .equal := rfl
  have htext : (column ++ "=" ++ raw).toList = column.toList ++ '=' :: raw.toList := by
    simp only [String.toList_append, List.append_assoc]
    rfl
  rw [parse, htext, ofText_append_cons hsigns rfl, hequal, Except.ok_bind, if_neg hcolumn]

theorem parse_append_equal_iff (hsigns : ∀ c ∈ column.toList, isOperatorSign c = false)
    (hcolumn : unquote (trim column.toList) ≠ []) (raw : String) (predicate : Predicate) :
    parse (column ++ "=" ++ raw) = .ok predicate ↔
      predicate.column = .ofList (unquote (trim column.toList)) ∧ predicate.operator = .equal ∧
        Literal.Spells predicate.value.toList (trim raw.toList) := by
  rw [parse_append_equal hsigns hcolumn, ← Literal.parse_eq_ok_iff (isTrimmed_trim _),
    Except.bind_eq_ok_iff]
  constructor
  · rintro ⟨value, hvalue, h⟩
    obtain rfl := Except.ok.inj h
    exact ⟨rfl, rfl, hvalue⟩
  · obtain ⟨name, operator, value⟩ := predicate
    rintro ⟨rfl, rfl, hvalue⟩
    exact ⟨value, hvalue, rfl⟩

/-- A condition with an equals sign is read exactly if behind the sign there is one literal and no
more; all else is no query. -/
theorem parse_equal (hsigns : ∀ c ∈ column.toList, isOperatorSign c = false)
    (hcolumn : unquote (trim column.toList) ≠ []) :
    (∀ raw predicate, parse (column ++ "=" ++ raw) = .ok predicate ↔
      predicate.column = .ofList (unquote (trim column.toList)) ∧ predicate.operator = .equal ∧
        Literal.Spells predicate.value.toList (trim raw.toList)) ∧
    (∀ value, parse (column ++ "=" ++ .ofList (Literal.write value.toList)) =
      .ok ⟨.ofList (unquote (trim column.toList)), .equal, value⟩) ∧
    (∀ raw : String, (∀ content, ¬Literal.Spells content (trim raw.toList)) →
      ∃ fault, parse (column ++ "=" ++ raw) = .error (.badQuery fault)) ∧
    (∀ raw content rest, trim raw.toList = Literal.write content ++ rest → rest ≠ [] →
      rest.head? ≠ some '\x27' → parse (column ++ "=" ++ raw) =
        .error (.badQuery (.afterLiteral (.ofList (trim rest))))) ∧
    (∀ raw word rest, trim raw.toList = word ++ rest → IsWord word → '\x27' ∉ word →
      (∃ c ∈ rest, isBlank c ∨ c = '\x27') → parse (column ++ "=" ++ raw) =
        .error (.badQuery (.notOneLiteral (.ofList (trim raw.toList))))) := by
  have hparse := parse_append_equal hsigns hcolumn
  refine ⟨parse_append_equal_iff hsigns hcolumn, fun value ↦ ?_, fun raw h ↦ ?_,
    fun raw content rest h hne hrest ↦ ?_, fun raw word rest h hword hquote hrest ↦ ?_⟩
  · rw [parse_append_equal_iff hsigns hcolumn, String.toList_ofList, Literal.trim_write]
    exact ⟨rfl, rfl, .quoted⟩
  · cases hliteral : Literal.parse (trim raw.toList) with
    | ok value => exact absurd (Literal.spells_of_parse (isTrimmed_trim _) hliteral) (h _)
    | error e =>
      obtain ⟨fault, rfl⟩ := Literal.exists_fault_of_parse hliteral
      exact ⟨fault, by rw [hparse, hliteral, Except.error_bind]⟩
  · have hblank : trim rest ≠ [] := by
      intro hblank
      have htrimmed := isTrimmed_trim raw.toList
      rw [h] at htrimmed
      exact hne (htrimmed.eq_nil_of_append (trim_eq_nil_iff.mp hblank))
    rw [hparse, h, Literal.parse_write_append content hrest, if_neg hblank, Except.error_bind]
  · rw [hparse, h, Literal.parse_word_append hword hquote hrest, Except.error_bind]

theorem parse_equal_escaped :
    (∀ c ∈ "[a b] ".toList, isOperatorSign c = false) ∧ unquote (trim "[a b] ".toList) ≠ [] ∧
    parse ("[a b] " ++ "=" ++ "'it''s AND'") = .ok ⟨"a b", .equal, "it's AND"⟩ ∧
    parse ("[a b] " ++ "=" ++ " 1 ") = .ok ⟨"a b", .equal, "1"⟩ ∧
    (∃ fault, parse ("[a b] " ++ "=" ++ "'it''") = .error (.badQuery fault)) ∧
    parse ("[a b] " ++ "=" ++ "'it' OR 1") = .error (.badQuery (.afterLiteral "OR 1")) ∧
    parse ("[a b] " ++ "=" ++ "1 OR 2") = .error (.badQuery (.notOneLiteral "1 OR 2")) := by
  have hsigns : ∀ c ∈ "[a b] ".toList, isOperatorSign c = false := by simp [isOperatorSign]
  have hname : unquote (trim "[a b] ".toList) = "a b".toList := by decide +kernel
  have hcolumn : unquote (trim "[a b] ".toList) ≠ [] := by
    rw [hname]
    decide
  have hword : IsWord ['1'] := ⟨by simp, by simp [isBlank]⟩
  have hone : trim " 1 ".toList = ['1'] := by decide +kernel
  have htwo : trim "1 OR 2".toList = ['1'] ++ " OR 2".toList := by decide +kernel
  have hquoted : trim "'it' OR 1".toList = Literal.write "it".toList ++ " OR 1".toList := by
    decide +kernel
  have hopen : ∀ content, ¬Literal.Spells content (trim "'it''".toList) := by
    intro content h
    have hparse : Literal.parse (trim "'it''".toList) =
        .error (.badQuery (.unterminated "'it''")) := by
      decide +kernel
    rw [h.parse_eq] at hparse
    cases hparse
  obtain ⟨hiff, hwrite, hfault, hbehind, hmore⟩ := parse_equal hsigns hcolumn
  rw [hname] at hiff hwrite
  refine ⟨hsigns, hcolumn, hwrite "it's AND", ?_, hfault _ hopen, ?_, ?_⟩
  · apply (hiff " 1 " ⟨"a b", .equal, "1"⟩).mpr
    rw [hone]
    exact ⟨rfl, rfl, .bare hword (by decide)⟩
  · exact hbehind _ _ _ hquoted (by decide) (by decide)
  · exact hmore _ _ _ htwo hword (by decide) ⟨' ', by decide, .inl rfl⟩

end Literal

end Predicate

end TableFile
