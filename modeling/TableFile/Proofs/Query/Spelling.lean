import TableFile.Proofs.Except
import TableFile.Proofs.Query.Literal
import TableFile.Proofs.Text.Keyword
import TableFile.Query.Select

namespace TableFile

open Text

namespace Operator

def sign : Operator → Char
  | equal => '='
  | greater => '>'
  | less => '<'

theorem toList_symbol (operator : Operator) : operator.symbol.toList = [operator.sign] := by
  cases operator <;> rfl

theorem sign_injective : Function.Injective sign := by
  intro operator other h
  cases operator <;> cases other <;> first | rfl | cases h

def StandsBefore : Operator → (next : Char) → Prop
  | equal, _ => True
  | greater, next => next ≠ '='
  | less, next => next ≠ '=' ∧ next ≠ '>'

theorem standsBefore_of_ne (operator : Operator) {next : Char} (hequal : next ≠ '=')
    (hgreater : next ≠ '>') : operator.StandsBefore next := by
  cases operator with
  | equal => trivial
  | greater => exact hequal
  | less => exact ⟨hequal, hgreater⟩

end Operator

namespace Predicate

structure IsName (name : List Char) : Prop where
  isWord : IsWord name
  not_quoted : startsQuoted name = false
  no_sign : ∀ c ∈ name, isOperatorSign c = false

inductive Spells : Predicate → List Char → Prop
  | mk {name gap gap' : List Char} (operator : Operator) (content : List Char)
      (hname : IsName name) (hgap : IsBlanks gap) (hgap' : IsBlanks gap') :
      Spells ⟨.ofList name, operator, .ofList content⟩
        (name ++ (gap ++ (operator.symbol.toList ++ (gap' ++ Query.Literal.write content))))

theorem isOperatorSign_sign (operator : Operator) : isOperatorSign operator.sign := by
  cases operator <;> rfl

theorem operatorAt_sign {operator : Operator} {next : Char} (h : operator.StandsBefore next) :
    operatorAt operator.sign (some next) = .ok operator := by
  cases operator with
  | equal => rfl
  | greater => exact if_neg h
  | less => exact if_neg (not_or.mpr h)

theorem isOperatorSign_of_isBlank {c : Char} (h : isBlank c) : isOperatorSign c = false := by
  by_contra hsign
  simp only [isOperatorSign, Bool.not_eq_false, Bool.or_eq_true, decide_eq_true_eq] at hsign
  rcases hsign with ((rfl | rfl) | rfl) | rfl <;> cases h

theorem Spells.getLast? {predicate : Predicate} {text : List Char} (h : predicate.Spells text) :
    text.getLast? = some '\x27' := by
  obtain @⟨name, gap, gap', operator, content, -, -, -⟩ := h
  simp only [← List.append_assoc, Query.Literal.getLast?_append_write]

theorem isBlank_of_isOperatorSign {c : Char} (h : isOperatorSign c) : isBlank c = false := by
  by_contra hblank
  rw [isOperatorSign_of_isBlank (Bool.not_eq_false _ ▸ hblank)] at h
  cases h

/-- A clause is cut at the first sign of an operator in it. -/
theorem ofText_append_cons {front : List Char} {sign : Char}
    (hfront : ∀ c ∈ front, isOperatorSign c = false) (hsign : isOperatorSign sign)
    (rest : List Char) : ofText (front ++ sign :: rest) = do
      let operator ← operatorAt sign (trimEnd rest).head?
      if unquote (trim front) = [] then
        throw (.badQuery (.noColumn (.ofList (trim (front ++ sign :: rest)))))
      return ⟨.ofList (unquote (trim front)), operator, ← Query.Literal.parse (trim rest)⟩ := by
  have hgo : ∀ c ∈ trimStart front, (!isOperatorSign c) = true := by
    intro c hc
    rw [hfront c ((List.dropWhile_sublist isBlank).subset hc), Bool.not_false]
  have hstop : ∀ c ∈ (sign :: trimEnd rest).head?, (!isOperatorSign c) = false := by
    rintro c ⟨⟩
    rw [hsign, Bool.not_true]
  rw [ofText, trim_append_cons (isBlank_of_isOperatorSign hsign)]
  simp only [dropWhile_append_eq hgo hstop, takeWhile_append_eq hgo hstop, trim_trimStart,
    trim_trimEnd]

theorem ofText_of_spells {predicate : Predicate} {text before : List Char}
    (h : predicate.Spells text) (hbefore : IsBlanks before) :
    ofText (before ++ text) = .ok predicate := by
  obtain @⟨name, gap, gap', operator, content, hname, hgap, hgap'⟩ := h
  have hfront : ∀ c ∈ before ++ (name ++ gap), isOperatorSign c = false := by
    have hblanks {blanks : List Char} (h : IsBlanks blanks) :
        ∀ c ∈ blanks, isOperatorSign c = false := fun c hc ↦ isOperatorSign_of_isBlank (h c hc)
    exact List.forall_mem_append.mpr
      ⟨hblanks hbefore, List.forall_mem_append.mpr ⟨hname.no_sign, hblanks hgap⟩⟩
  have hrest : trimEnd (gap' ++ Query.Literal.write content) =
      gap' ++ Query.Literal.write content := by
    apply trimEnd_eq_self
    intro c hc
    obtain rfl := Option.some.inj ((Query.Literal.getLast?_append_write gap' content).symm.trans hc)
    rfl
  have hnext : operatorAt operator.sign (gap' ++ Query.Literal.write content).head? =
      .ok operator := by
    cases gap' with
    | nil => exact operatorAt_sign (operator.standsBefore_of_ne (by decide) (by decide))
    | cons c gap' =>
      have hc := hgap' c List.mem_cons_self
      refine operatorAt_sign (operator.standsBefore_of_ne ?_ ?_) <;> rintro rfl <;> cases hc
  have hcolumn : unquote (trim (before ++ (name ++ gap))) = name := by
    rw [trim_append hbefore name hgap, hname.isWord.trim_eq, unquote_eq_self hname.not_quoted]
  have hliteral : trim (gap' ++ Query.Literal.write content) = Query.Literal.write content := by
    rw [trim_blanks_append hgap', Query.Literal.trim_write]
  have hassoc : before ++ (name ++ (gap ++ (operator.symbol.toList ++
      (gap' ++ Query.Literal.write content)))) =
      (before ++ (name ++ gap)) ++ operator.sign :: (gap' ++ Query.Literal.write content) := by
    simp only [operator.toList_symbol, List.append_assoc, List.singleton_append]
  rw [hassoc, ofText_append_cons hfront (isOperatorSign_sign operator), hrest, hnext, hcolumn,
    hliteral, Query.Literal.parse_write]
  simp only [Except.ok_bind, if_neg hname.isWord.ne_nil]
  rfl

end Predicate

namespace Query

structure IsColumnName (name : List Char) : Prop where
  isWord : IsWord name
  not_quoted : startsQuoted name = false
  no_comma : ',' ∉ name
  not_from : sameLetters "from".toList name = false
  not_count : sameLetters name countAll.toList = false

structure IsTableName (name : List Char) : Prop where
  isWord : IsWord name
  not_quoted : startsQuoted name = false
  not_where : sameLetters "where".toList name = false
  not_end : name.getLast? ≠ some ';'

inductive ColumnsSpelled : List String → List Char → Prop
  | one {before name after : List Char} (hbefore : IsBlanks before) (hname : IsColumnName name)
      (hafter : IsBlanks after) : ColumnsSpelled [.ofList name] (before ++ (name ++ after))
  | more {before name after list : List Char} {names : List String} (hbefore : IsBlanks before)
      (hname : IsColumnName name) (hafter : IsBlanks after) (hlist : ColumnsSpelled names list) :
      ColumnsSpelled (.ofList name :: names) (before ++ (name ++ (after ++ ',' :: list)))

inductive SourceSpelled : List Char → Option Predicate → List Char → Prop
  | all {name : List Char} (hname : IsTableName name) : SourceSpelled name none name
  | filtered {name gap word gap' condition : List Char} {predicate : Predicate}
      (hname : IsTableName name) (hgap : IsGap gap) (hword : sameLetters "where".toList word)
      (hgap' : IsGap gap') (hcondition : predicate.Spells condition) :
      SourceSpelled name (some predicate) (name ++ (gap ++ (word ++ (gap' ++ condition))))

inductive StatementSpelled : Query → List Char → Prop
  | mk {select gap list gap' word gap'' name source : List Char} {columns : List String}
      {predicate : Option Predicate} (hselect : sameLetters "select".toList select)
      (hgap : IsGap gap) (hlist : ColumnsSpelled columns list) (hgap' : IsGap gap')
      (hfrom : sameLetters "from".toList word) (hgap'' : IsGap gap'')
      (hsource : SourceSpelled name predicate source) :
      StatementSpelled ⟨.ofList name, columns, predicate⟩
        (select ++ (gap ++ (list ++ (gap' ++ (word ++ (gap'' ++ source))))))

inductive Spells : Query → String → Prop
  | mk {query : Query} {before statement gap semicolons after : List Char}
      (hbefore : IsBlanks before) (hstatement : StatementSpelled query statement)
      (hgap : IsBlanks gap) (hsemicolons : ∀ c ∈ semicolons, c = ';') (hafter : IsBlanks after) :
      Spells query (.ofList (before ++ (statement ++ (gap ++ (semicolons ++ after)))))

section Columns

variable {names : List String} {name list gap : List Char}

theorem ColumnsSpelled.blanks_append (h : ColumnsSpelled names list) (hgap : IsBlanks gap) :
    ColumnsSpelled names (gap ++ list) := by
  cases h with
  | one hbefore hname hafter =>
    rw [← List.append_assoc]
    exact .one (hgap.append hbefore) hname hafter
  | more hbefore hname hafter hlist =>
    rw [← List.append_assoc]
    exact .more (hgap.append hbefore) hname hafter hlist

theorem ColumnsSpelled.append_blanks (h : ColumnsSpelled names list) (hgap : IsBlanks gap) :
    ColumnsSpelled names (list ++ gap) := by
  induction h with
  | one hbefore hname hafter =>
    rw [List.append_assoc, List.append_assoc]
    exact .one hbefore hname (hafter.append hgap)
  | more hbefore hname hafter _ ih =>
    rw [List.append_assoc, List.append_assoc, List.append_assoc, List.cons_append]
    exact .more hbefore hname hafter ih

theorem columnName_name (h : IsColumnName name) : columnName name = .ofList name := by
  have hfilter : name.filter (!isBlank ·) = name := by
    rw [List.filter_eq_self]
    intro c hc
    rw [h.isWord.not_blank c hc, Bool.not_false]
  rw [columnName, hfilter, h.not_count, if_neg Bool.false_ne_true, unquote_eq_self h.not_quoted]

theorem comma_not_mem {blanks : List Char} (h : IsBlanks blanks) : ',' ∉ blanks := by
  intro hc
  have hblank := h ',' hc
  cases hblank

theorem splitWhere_name {before after : List Char} (hbefore : IsBlanks before)
    (hname : IsColumnName name) (hafter : IsBlanks after) :
    splitWhere (· = ',') (before ++ (name ++ after)) = [before ++ (name ++ after)] := by
  apply splitWhere_of_forall
  intro c hc
  rw [decide_eq_false_iff_not]
  rintro rfl
  simp only [List.mem_append, comma_not_mem hbefore, hname.no_comma, comma_not_mem hafter,
    or_false] at hc

theorem columnNames_of_spelled (h : ColumnsSpelled names list) : columnNames list = names := by
  have piece {before name after : List Char} (hbefore : IsBlanks before)
      (hname : IsColumnName name) (hafter : IsBlanks after) (pieces : List (List Char)) :
      ((((before ++ (name ++ after)) :: pieces).map trim).filter (· ≠ [])).map columnName =
        .ofList name :: ((pieces.map trim).filter (· ≠ [])).map columnName := by
    have htrim : trim (before ++ (name ++ after)) = name := by
      rw [trim_append hbefore name hafter, hname.isWord.trim_eq]
    rw [List.map_cons, htrim, List.filter_cons_of_pos (by simpa using hname.isWord.ne_nil),
      List.map_cons, columnName_name hname]
  induction h with
  | one hbefore hname hafter =>
    rw [columnNames, splitWhere_name hbefore hname hafter, piece hbefore hname hafter]
    rfl
  | @more before name after list names hbefore hname hafter _ ih =>
    have hassoc : before ++ (name ++ (after ++ ',' :: list)) =
        (before ++ (name ++ after)) ++ ',' :: list := by
      simp only [List.append_assoc]
    rw [columnNames, hassoc, splitWhere_append_cons (by rfl), splitWhere_name hbefore hname hafter,
      List.singleton_append, piece hbefore hname hafter, ← columnNames, ih]

theorem isKeyword_from : IsKeyword "from".toList :=
  ⟨by simp, by simp⟩

/-- The search for what the columns are of passes over all of them. -/
theorem cutAtFrom_columns (h : ColumnsSpelled names list) (hgap : IsGap gap) (start : Bool)
    (s : List Char) : cutAtWord? "from".toList start (list ++ (gap ++ s)) =
      (cutAtWord? "from".toList true s).map fun r ↦ (list ++ (gap ++ r.1), r.2) := by
  induction h generalizing start with
  | @one before name after hbefore hname hafter =>
    have hgap' : IsGap (after ++ gap) :=
      ⟨List.append_ne_nil_of_right_ne_nil after hgap.ne_nil, hafter.append hgap.blanks⟩
    have hnext : ∀ c ∈ ((after ++ gap) ++ s).head?, c.isAlpha = false :=
      fun c hc ↦ isAlpha_of_isBlank (hgap'.head_blank s c hc)
    have hassoc : (before ++ (name ++ after)) ++ (gap ++ s) =
        before ++ (name ++ ((after ++ gap) ++ s)) := by
      simp only [List.append_assoc]
    rw [hassoc, cutAtWord?_blanks_name isKeyword_from hbefore hname.isWord hname.not_from hnext,
      cutAtWord?_gap isKeyword_from hgap', Option.map_map]
    simp only [Function.comp_def, List.append_assoc]
  | @more before name after list names hbefore hname hafter _ ih =>
    have halpha : ∀ c ∈ after, c.isAlpha = false := fun c hc ↦ isAlpha_of_isBlank (hafter c hc)
    have hnext : ∀ c ∈ (after ++ ',' :: (list ++ (gap ++ s))).head?, c.isAlpha = false := by
      intro c hc
      cases after with
      | nil =>
        obtain rfl := Option.some.inj hc
        rfl
      | cons d after =>
        obtain rfl := Option.some.inj hc
        exact halpha d List.mem_cons_self
    have hassoc : (before ++ (name ++ (after ++ ',' :: list))) ++ (gap ++ s) =
        before ++ (name ++ (after ++ ',' :: (list ++ (gap ++ s)))) := by
      simp only [List.append_assoc, List.cons_append]
    rw [hassoc, cutAtWord?_blanks_name isKeyword_from hbefore hname.isWord hname.not_from hnext,
      cutAtWord?_append_cons isKeyword_from halpha (by rfl), ih, Option.map_map, Option.map_map]
    simp only [Function.comp_def, List.append_assoc, List.cons_append]

end Columns

section Source

variable {name text gap : List Char} {predicate : Option Predicate}

theorem SourceSpelled.exists_getLast? (h : SourceSpelled name predicate text) :
    ∃ c, text.getLast? = some c ∧ isBlank c = false ∧ c ≠ ';' := by
  cases h with
  | all hname =>
    have hlast := List.getLast?_eq_some_getLast hname.isWord.ne_nil
    refine ⟨name.getLast hname.isWord.ne_nil, hlast, ?_, ?_⟩
    · exact hname.isWord.getLast_not_blank _ hlast
    · intro hend
      exact hname.not_end (hend ▸ hlast)
  | filtered _ _ _ _ hcondition =>
    refine ⟨'\x27', ?_, rfl, by decide⟩
    simp only [List.getLast?_append, hcondition.getLast?, Option.some_or]

theorem SourceSpelled.isTableName (h : SourceSpelled name predicate text) : IsTableName name := by
  cases h with
  | all hname => exact hname
  | filtered hname => exact hname

theorem isKeyword_where : IsKeyword "where".toList :=
  ⟨by simp, by simp⟩

theorem source_of_spelled (h : SourceSpelled name predicate text) (hgap : IsGap gap) :
    ∃ table, source (gap ++ text) = .ok (table, predicate) ∧ trim table = name := by
  cases h with
  | all hname =>
    have hcut : cutAtWord? "where".toList true (gap ++ name) = none := by
      rw [cutAtWord?_gap isKeyword_where hgap, ← List.append_nil name,
        cutAtWord?_name isKeyword_where hname.isWord hname.not_where (by simp)]
      rfl
    refine ⟨gap ++ name, ?_, ?_⟩
    · rw [source, hcut]
    · rw [trim_blanks_append hgap.blanks, hname.isWord.trim_eq]
  | @filtered gap₁ word gap₂ condition _ hname hgap₁ hword hgap₂ hcondition =>
    have hnext : ∀ c ∈ (gap₁ ++ (word ++ (gap₂ ++ condition))).head?, c.isAlpha = false :=
      fun c hc ↦ isAlpha_of_isBlank (hgap₁.head_blank _ c hc)
    have hcut : cutAtWord? "where".toList true
        (gap ++ (name ++ (gap₁ ++ (word ++ (gap₂ ++ condition))))) =
          some (gap ++ (name ++ (gap₁ ++ [])), gap₂ ++ condition) := by
      rw [cutAtWord?_gap isKeyword_where hgap,
        cutAtWord?_name isKeyword_where hname.isWord hname.not_where hnext,
        cutAtWord?_gap isKeyword_where hgap₁,
        cutAtWord?_spelled isKeyword_where hword (hgap₂.head_blank condition)]
      rfl
    refine ⟨gap ++ (name ++ (gap₁ ++ [])), ?_, ?_⟩
    · rw [source, hcut]
      simp only [Predicate.ofText_of_spells hcondition hgap₂.blanks]
      rfl
    · rw [List.append_nil, trim_append hgap.blanks name hgap₁.blanks, hname.isWord.trim_eq]

end Source

section Statement

theorem isKeyword_select : IsKeyword "select".toList :=
  ⟨by simp, by simp⟩

variable {word rest before gap semicolons after : List Char}

/-- Blanks and semicolons around a statement are dropped. -/
theorem statement_append (hword : IsWord word)
    (hlast : ∃ c, (word ++ rest).getLast? = some c ∧ isBlank c = false ∧ c ≠ ';')
    (hbefore : IsBlanks before) (hgap : IsBlanks gap) (hsemicolons : ∀ c ∈ semicolons, c = ';')
    (hafter : IsBlanks after) :
    statement (before ++ ((word ++ rest) ++ (gap ++ (semicolons ++ after)))) = word ++ rest := by
  obtain ⟨last, hlast, hblank, hend⟩ := hlast
  have hself : ∀ c ∈ (word ++ rest).getLast?, isBlank c = false := by
    rw [hlast]
    rintro c ⟨⟩
    exact hblank
  have hsemicolon : ∀ c ∈ semicolons.getLast?, isBlank c = false := by
    intro c hc
    rw [hsemicolons c (List.mem_of_getLast? hc)]
    rfl
  obtain ⟨gap', hgap', -, htrim⟩ := exists_trim_append_gap
    (List.append_ne_nil_of_left_ne_nil hword.ne_nil rest) (hword.head_append_not_blank rest) hself
    hsemicolon hbefore hgap hafter
  have hassoc : (word ++ rest) ++ (gap ++ (semicolons ++ after)) =
      ((word ++ rest) ++ (gap ++ semicolons)) ++ after := by
    simp only [List.append_assoc]
  have hall : ∀ c ∈ semicolons, decide (c = ';') := fun c hc ↦ decide_eq_true (hsemicolons c hc)
  have hstop : ∀ c ∈ (word ++ rest ++ gap').getLast?, decide (c = ';') = false := by
    intro c hc
    rw [decide_eq_false_iff_not]
    rw [List.getLast?_append, hlast, Option.mem_def, Option.or_eq_some_iff] at hc
    rcases hc with hc | ⟨-, hc⟩
    · have hc := hgap' c (List.mem_of_getLast? hc)
      rintro rfl
      cases hc
    · exact Option.some.inj hc ▸ hend
  rw [statement, hassoc, htrim, ← List.append_assoc _ gap', dropWhile_reverse_append _ hall,
    dropWhile_reverse_eq_self hstop, List.reverse_reverse, trimEnd_append _ hgap',
    trimEnd_eq_self hself]

theorem statement_of_spelled {query : Query} {text : List Char} (h : StatementSpelled query text)
    (hbefore : IsBlanks before) (hgap : IsBlanks gap) (hsemicolons : ∀ c ∈ semicolons, c = ';')
    (hafter : IsBlanks after) :
    statement (before ++ (text ++ (gap ++ (semicolons ++ after)))) = text := by
  cases h with
  | mk hselect _ _ _ _ _ hsource =>
    have hword := (isKeyword_select.of_sameLetters hselect).isWord
    refine statement_append hword ?_ hbefore hgap hsemicolons hafter
    obtain ⟨c, hc, hend⟩ := hsource.exists_getLast?
    refine ⟨c, ?_, hend⟩
    simp only [List.getLast?_append, hc, Option.some_or]

theorem columns_ne_nil {names : List String} {list : List Char} (h : ColumnsSpelled names list) :
    names ≠ [] := by
  cases h <;> exact List.cons_ne_nil _ _

/-- The keywords cut a statement into what the query is made of. -/
theorem StatementSpelled.exists_parts {query : Query} {text : List Char}
    (h : StatementSpelled query text) :
    ∃ behind list rest table, afterWholeWord? "select".toList text = some behind ∧
      cutAtWord? "from".toList true behind = some (list, rest) ∧
      (columnNames list = query.columns ∧ query.columns ≠ []) ∧
      source rest = .ok (table, query.predicate) ∧
      unquote (trim table) = query.table.toList ∧ IsWord query.table.toList := by
  obtain @⟨select, gap, list, gap', word, gap'', name, source', columns, predicate, hselect, hgap,
    hlist, hgap', hfrom, hgap'', hsource⟩ := h
  obtain ⟨table, hread, htable⟩ := source_of_spelled hsource hgap''
  have hname := hsource.isTableName
  have hlist' := hlist.blanks_append hgap.blanks
  refine ⟨gap ++ (list ++ (gap' ++ (word ++ (gap'' ++ source')))), (gap ++ list) ++ (gap' ++ []),
    gap'' ++ source', table, afterWholeWord?_append hselect (hgap.head_blank _), ?_, ⟨?_, ?_⟩,
    hread, ?_, ?_⟩
  · rw [← List.append_assoc gap, cutAtFrom_columns hlist' hgap',
      cutAtWord?_spelled isKeyword_from hfrom (hgap''.head_blank source')]
    rfl
  · rw [List.append_nil]
    exact columnNames_of_spelled (hlist'.append_blanks hgap'.blanks)
  · exact columns_ne_nil hlist
  · rw [htable, unquote_eq_self hname.not_quoted, String.toList_ofList]
  · rw [String.toList_ofList]
    exact hname.isWord

/-- However a query is written, reading gives back its table, its columns and its predicate. -/
theorem parse_of_spells {query : Query} {sql : String} (h : Spells query sql) :
    parse sql = .ok query := by
  obtain @⟨before, text, gap, semicolons, after, hbefore, htext, hgap, hsemicolons, hafter⟩ := h
  obtain ⟨behind, list, rest, table, hselect, hfrom, ⟨hcolumns, hne⟩, hsource, htable, hword⟩ :=
    htext.exists_parts
  have hone : ¬(query.table.toList = [] ∨ query.table.toList.any isBlank) := by
    rw [not_or, List.any_eq_true]
    refine ⟨hword.ne_nil, ?_⟩
    rintro ⟨c, hc, hblank⟩
    rw [hword.not_blank c hc] at hblank
    cases hblank
  rw [parse]
  simp only [String.toList_ofList, statement_of_spelled htext hbefore hgap hsemicolons hafter,
    hselect, hfrom, hcolumns, hne, if_false, hsource, Except.ok_bind, htable, if_neg hone,
    Except.pure_eq_ok, String.ofList_toList]

theorem parse_of_spells_keywords :
    parse "\tSeLeCT İ ,fromage\u00A0From whereß\nWHERE a;b=  'it''s; from ''where'' \n1' ;; " =
      .ok ⟨"whereß", ["İ", "fromage"], some ⟨"a;b", .equal, "it's; from 'where' \n1"⟩⟩ := by
  have hcolumn : IsColumnName "İ".toList :=
    ⟨⟨by simp, by simp [isBlank]⟩, rfl, by simp, rfl, rfl⟩
  have hcolumn' : IsColumnName "fromage".toList :=
    ⟨⟨by simp, by simp [isBlank]⟩, rfl, by simp, rfl, rfl⟩
  have htable : IsTableName "whereß".toList := ⟨⟨by simp, by simp [isBlank]⟩, rfl, rfl, by simp⟩
  have hname : Predicate.IsName "a;b".toList :=
    ⟨⟨by simp, by simp [isBlank]⟩, rfl, by simp [Predicate.isOperatorSign]⟩
  have htab : IsGap ['\t'] := .singleton rfl
  have hline : IsGap ['\n'] := .singleton rfl
  have hspace : IsGap [' '] := .singleton rfl
  have hnarrow : IsGap ['\u00A0'] := .singleton rfl
  have hselect : sameLetters "select".toList "SeLeCT".toList := rfl
  have hfrom : sameLetters "from".toList "From".toList := rfl
  have hwhere : sameLetters "where".toList "WHERE".toList := rfl
  have hend : ∀ c ∈ ";;".toList, c = ';' := by simp
  have hcondition := Predicate.Spells.mk .equal "it's; from 'where' \n1".toList hname IsBlanks.nil
    (hspace.blanks.append hspace.blanks)
  have hsource := SourceSpelled.filtered htable hline hwhere hspace hcondition
  have hlist := ColumnsSpelled.more IsBlanks.nil hcolumn hspace.blanks
    (.one IsBlanks.nil hcolumn' IsBlanks.nil)
  have hstatement := StatementSpelled.mk hselect hspace hlist hnarrow hfrom hspace hsource
  have hquery := Spells.mk htab.blanks hstatement hspace.blanks hend hspace.blanks
  have hparse := parse_of_spells hquery
  exact hparse

end Statement

end Query

end TableFile
