import TableFile.Proofs.Query.Spelling
import TableFile.Proofs.Text.Search

namespace TableFile

open Text

theorem Predicate.column_ne_empty {text : List Char} {predicate : Predicate}
    (h : ofText text = .ok predicate) : predicate.column ≠ "" := by
  simp only [ofText] at h
  split at h
  · cases h
  · obtain ⟨operator, -, h⟩ := Except.bind_eq_ok_iff.mp h
    split at h
    · cases h
    · next hcolumn =>
      obtain ⟨value, -, h⟩ := Except.bind_eq_ok_iff.mp h
      obtain rfl := Except.ok.inj h
      intro hempty
      exact hcolumn (String.ofList_inj.mp hempty)

namespace Query

section Statement

variable {sql text : List Char}

/-- The statement in a text: what is left of it without the blanks around it, the run of semicolons
at its end, and the blanks that come in front of these. -/
inductive HasStatement : (sql text : List Char) → Prop
  | mk {before text gap semicolons after : List Char} (hbefore : IsBlanks before)
      (hafter : IsBlanks after) (hinner : IsTrimmed (text ++ (gap ++ semicolons)))
      (hsemicolons : ∀ c ∈ semicolons, c = ';') (hrun : (text ++ gap).getLast? ≠ some ';')
      (hgap : IsBlanks gap) (hend : ∀ c ∈ text.getLast?, isBlank c = false) :
      HasStatement (before ++ ((text ++ (gap ++ semicolons)) ++ after)) text

theorem statement_eq_iff : statement sql = text ↔ HasStatement sql text := by
  constructor
  · rintro rfl
    obtain ⟨before, after, hbefore, hafter, hsql⟩ := exists_trim_append sql
    have hinner := isTrimmed_trim sql
    obtain ⟨body, semicolons, hbody, hrun, hall, hstop⟩ :=
      exists_dropWhile_reverse_append (· = ';') (trim sql)
    obtain ⟨text, gap, htext, hgap, hblank, hend⟩ := exists_dropWhile_reverse_append isBlank body
    have htrim : trim sql = text ++ (gap ++ semicolons) := by
      rw [hrun, hgap, List.append_assoc]
    rw [statement, hbody, trimEnd, htext]
    rw [htrim] at hsql hinner
    rw [hsql]
    refine .mk hbefore hafter hinner (fun c hc ↦ of_decide_eq_true (hall c hc)) ?_ hblank hend
    intro hlast
    have hne := hstop ';' (hgap ▸ hlast)
    cases hne
  · intro h
    obtain @⟨before, _, gap, semicolons, after, hbefore, hafter, hinner, hsemicolons, hrun, hgap,
      hend⟩ := h
    have hall : ∀ c ∈ semicolons, decide (c = ';') := fun c hc ↦ decide_eq_true (hsemicolons c hc)
    have hstop : ∀ c ∈ (text ++ gap).getLast?, decide (c = ';') = false := by
      intro c hc
      rw [decide_eq_false_iff_not]
      rintro rfl
      exact hrun hc
    rw [statement, trim_append hbefore _ hafter, hinner.trim_eq, ← List.append_assoc,
      dropWhile_reverse_append _ hall, dropWhile_reverse_eq_self hstop, List.reverse_reverse,
      trimEnd_append text hgap, trimEnd_eq_self hend]

end Statement

section Columns

inductive PieceNames : (piece : List Char) → Option String → Prop
  | blank {piece : List Char} (h : IsBlanks piece) : PieceNames piece none
  | count {piece : List Char}
      (h : sameLetters (piece.filter (!isBlank ·)) countAll.toList) :
      PieceNames piece (some countAll)
  | column {before text after name : List Char} (hbefore : IsBlanks before)
      (hafter : IsBlanks after) (htext : IsTrimmed text) (hne : text ≠ [])
      (hcount : sameLetters (text.filter (!isBlank ·)) countAll.toList = false)
      (hname : Unquotes text name) : PieceNames (before ++ (text ++ after)) (some (.ofList name))

def ListNames (list : List Char) (names : List String) : Prop :=
  ∃ pieces found, list = [','].intercalate pieces ∧ (∀ piece ∈ pieces, ',' ∉ piece) ∧
    List.Forall₂ PieceNames pieces found ∧ names = found.reduceOption

def pieceName? (piece : List Char) : Option String :=
  if trim piece = [] then none else some (columnName (trim piece))

variable {piece list : List Char} {names : List String}

theorem filter_trim (piece : List Char) :
    (trim piece).filter (!isBlank ·) = piece.filter (!isBlank ·) := by
  have hnil {s : List Char} (h : IsBlanks s) : s.filter (!isBlank ·) = [] := by
    rw [List.filter_eq_nil_iff]
    intro c hc
    rw [h c hc]
    exact Bool.false_ne_true
  obtain ⟨before, after, hbefore, hafter, hpiece⟩ := exists_trim_append piece
  have hfilter := congrArg (List.filter (!isBlank ·)) hpiece
  rw [List.filter_append, List.filter_append, hnil hbefore, hnil hafter, List.append_nil] at hfilter
  exact hfilter.symm

theorem pieceName?_eq_iff {name : Option String} :
    pieceName? piece = name ↔ PieceNames piece name := by
  constructor
  · rintro rfl
    rw [pieceName?]
    split
    · next h => exact .blank (trim_eq_nil_iff.mp h)
    · next h =>
      rw [columnName, filter_trim]
      split
      · next hcount => exact .count hcount
      · next hcount =>
        obtain ⟨before, after, hbefore, hafter, hpiece⟩ := exists_trim_append piece
        rw [← filter_trim, Bool.not_eq_true] at hcount
        have hnames := PieceNames.column hbefore hafter (isTrimmed_trim piece) h hcount
          (unquote_eq_iff.mp rfl)
        rwa [← hpiece] at hnames
  · intro h
    cases h with
    | blank h => rw [pieceName?, if_pos (trim_eq_nil_iff.mpr h)]
    | count h =>
      have hne : trim piece ≠ [] := by
        intro hnil
        rw [← filter_trim, hnil] at h
        cases h
      rw [pieceName?, if_neg hne, columnName, filter_trim, if_pos h]
    | column hbefore hafter htext hne hcount hname =>
      rw [pieceName?, trim_append hbefore _ hafter, htext.trim_eq, if_neg hne, columnName, hcount,
        if_neg Bool.false_ne_true, unquote_eq_iff.mpr hname]

theorem columnNames_eq_filterMap (list : List Char) :
    columnNames list = (splitWhere (· = ',') list).filterMap pieceName? := by
  rw [columnNames, ← List.filterMap_eq_map, ← List.filterMap_eq_filter, List.filterMap_filterMap,
    List.filterMap_map]
  congr 1
  funext piece
  by_cases h : trim piece = [] <;> simp [pieceName?, h]

theorem columnNames_eq_iff : columnNames list = names ↔ ListNames list names := by
  rw [columnNames_eq_filterMap]
  constructor
  · rintro rfl
    refine ⟨splitWhere (· = ',') list, (splitWhere (· = ',') list).map pieceName?,
      (intercalate_splitWhere ',' list).symm, fun piece h ↦ not_mem_of_mem_splitWhere h, ?_, ?_⟩
    · rw [List.forall₂_map_right_iff, List.forall₂_same]
      intro piece _
      exact pieceName?_eq_iff.mp rfl
    · rw [List.reduceOption, List.filterMap_map]
      rfl
  · rintro ⟨pieces, found, rfl, hcomma, hpieces, rfl⟩
    have hfound : found = pieces.map pieceName? := by
      rw [← List.forall₂_eq_eq_eq, List.forall₂_map_right_iff]
      exact hpieces.flip.imp fun name piece h ↦ (pieceName?_eq_iff.mpr h).symm
    rw [hfound, List.reduceOption, List.filterMap_map]
    by_cases hne : pieces = []
    · subst hne
      rfl
    · rw [splitWhere_intercalate hne hcomma]
      rfl

end Columns

section Table

inductive TableNamed : (text name : List Char) → Prop
  | mk {before word after name : List Char} (hbefore : IsBlanks before) (hword : IsWord word)
      (hafter : IsBlanks after) (hunquotes : Unquotes word name) (hname : IsWord name) :
      TableNamed (before ++ (word ++ after)) name

variable {text name word : List Char}

theorem closingMark?_not_blank {c mark : Char} (h : closingMark? c = some mark) :
    isBlank c = false ∧ isBlank mark = false := by
  rcases eq_of_closingMark? h with ⟨rfl, rfl⟩ | ⟨rfl, rfl⟩ | ⟨rfl, rfl⟩ <;> exact ⟨rfl, rfl⟩

theorem isWord_of_unquotes (h : Unquotes word name) (hname : IsWord name) : IsWord word := by
  cases h with
  | bare => exact hname
  | @quoted c mark _ hmark =>
    obtain ⟨hc, hm⟩ := closingMark?_not_blank hmark
    refine ⟨List.cons_ne_nil c _, ?_⟩
    rw [List.forall_mem_cons, List.forall_mem_append, List.forall_mem_singleton]
    exact ⟨hc, hname.not_blank, hm⟩

theorem tableNamed_iff : TableNamed text name ↔ unquote (trim text) = name ∧ IsWord name := by
  constructor
  · intro h
    obtain ⟨hbefore, hword, hafter, hunquotes, hname⟩ := h
    rw [trim_append hbefore _ hafter, hword.trim_eq, unquote_eq_iff]
    exact ⟨hunquotes, hname⟩
  · rintro ⟨hunquote, hname⟩
    have hunquotes := unquote_eq_iff.mp hunquote
    obtain ⟨before, after, hbefore, hafter, htext⟩ := exists_trim_append text
    rw [htext]
    exact .mk hbefore (isWord_of_unquotes hunquotes hname) hafter hunquotes hname

theorem TableNamed.exists_words (h : TableNamed text name) : ∃ word, words text = [word] := by
  obtain @⟨before, word, after, name, hbefore, hword, hafter, -, -⟩ := h
  refine ⟨word, ?_⟩
  rw [words_blanks_append hbefore, words_append_blanks word hafter, hword.words_eq]

end Table

/-- A statement cut at its keywords, each of which stands alone: the list behind `SELECT` goes on
to the first `FROM`, and what the columns are of goes on to the first `WHERE` if there is one. -/
inductive CutInto : (text list table : List Char) → (clause : Option (List Char)) → Prop
  | all {select list word table : List Char}
      (hselect : StandsAlone "select".toList [] select (list ++ (word ++ table)))
      (hfrom : StandsAlone "from".toList (select ++ list) word table)
      (hlist : ¬HasWord "from".toList list) (htable : ¬HasWord "where".toList table) :
      CutInto (select ++ (list ++ (word ++ table))) list table none
  | filtered {select list word table word' clause : List Char}
      (hselect : StandsAlone "select".toList [] select
        (list ++ (word ++ (table ++ (word' ++ clause)))))
      (hfrom : StandsAlone "from".toList (select ++ list) word (table ++ (word' ++ clause)))
      (hwhere : StandsAlone "where".toList (select ++ (list ++ (word ++ table))) word' clause)
      (hlist : ¬HasWord "from".toList list) (htable : ¬HasWord "where".toList table) :
      CutInto (select ++ (list ++ (word ++ (table ++ (word' ++ clause))))) list table (some clause)

/-- The query takes its columns, its table and its predicate each from one part of the statement,
and from all of that part. -/
structure ReadFrom (query : Query) (list table : List Char) (clause : Option (List Char)) :
    Prop where
  columns : ListNames list query.columns
  columns_ne_nil : query.columns ≠ []
  table : TableNamed table query.table.toList
  predicate : clause.mapM Predicate.ofText = .ok query.predicate
  column_ne_empty : ∀ predicate ∈ query.predicate, predicate.column ≠ ""

section Cut

variable {text list table : List Char} {clause : Option (List Char)} {sql : String} {query : Query}

theorem parse_eq_ok : parse sql = .ok query ↔
    ∃ behind list rest table, afterWholeWord? "select".toList (statement sql.toList) = some behind ∧
      cutAtWord? "from".toList true behind = some (list, rest) ∧
      columnNames list = query.columns ∧ query.columns ≠ [] ∧
      source rest = .ok (table, query.predicate) ∧ TableNamed table query.table.toList := by
  constructor
  · intro h
    simp only [parse] at h
    split at h
    · next behind hselect =>
      split at h
      · next list rest hfrom =>
        split at h
        · cases h
        · next hcolumns =>
          obtain ⟨⟨table, predicate⟩, hsource, h⟩ := Except.bind_eq_ok_iff.mp h
          simp only [] at h
          split at h
          · cases h
          · next hname =>
            obtain rfl := Except.ok.inj h
            refine ⟨behind, list, rest, table, hselect, hfrom, rfl, hcolumns, hsource, ?_⟩
            rw [tableNamed_iff, String.toList_ofList]
            rw [not_or, List.any_eq_true] at hname
            refine ⟨rfl, hname.1, ?_⟩
            intro c hc
            rw [← Bool.not_eq_true]
            exact fun hblank ↦ hname.2 ⟨c, hc, hblank⟩
      · cases h
    · cases h
  · rintro ⟨behind, list, rest, table, hselect, hfrom, hcolumns, hne, hsource, htable⟩
    obtain ⟨hunquote, hname⟩ := tableNamed_iff.mp htable
    have hone : ¬(query.table.toList = [] ∨ query.table.toList.any isBlank) := by
      rw [not_or, List.any_eq_true]
      refine ⟨hname.ne_nil, ?_⟩
      rintro ⟨c, hc, hblank⟩
      rw [hname.not_blank c hc] at hblank
      cases hblank
    simp only [parse, hselect, hfrom, hcolumns, hne, if_false, hsource, Except.ok_bind, hunquote,
      if_neg hone, Except.pure_eq_ok, String.ofList_toList]

/-- What is behind `FROM` is cut at the first `WHERE`, and the predicate is read from all that
follows it. -/
theorem CutInto.exists_source_eq (h : CutInto text list table clause) :
    ∃ behind rest, afterWholeWord? "select".toList text = some behind ∧
      cutAtWord? "from".toList true behind = some (list, rest) ∧
      source rest = (table, ·) <$> clause.mapM Predicate.ofText := by
  cases h with
  | @all select _ word _ hselect hfrom hlist htable =>
    refine ⟨list ++ (word ++ table), table, ?_, ?_, ?_⟩
    · exact afterWholeWord?_eq_some_iff.mpr ⟨select, hselect, rfl⟩
    · exact (cutAtWord?_eq_some_iff isKeyword_from).mpr ⟨word, hfrom.of_append, rfl, hlist⟩
    · rw [source, (cutAtWord?_eq_none_iff isKeyword_where).mpr htable]
      rfl
  | @filtered select _ word _ word' clause hselect hfrom hwhere hlist htable =>
    have hwhere' : StandsAlone "where".toList table word' clause := by
      simp only [← List.append_assoc] at hwhere
      exact hwhere.of_append
    refine ⟨list ++ (word ++ (table ++ (word' ++ clause))), table ++ (word' ++ clause), ?_, ?_, ?_⟩
    · exact afterWholeWord?_eq_some_iff.mpr ⟨select, hselect, rfl⟩
    · exact (cutAtWord?_eq_some_iff isKeyword_from).mpr ⟨word, hfrom.of_append, rfl, hlist⟩
    · rw [source, (cutAtWord?_eq_some_iff isKeyword_where).mpr ⟨word', hwhere', rfl, htable⟩]
      cases hclause : Predicate.ofText clause <;> simp [hclause]

/-- The list and the place of the table hold something, so what is in front of the keyword behind
them is theirs. -/
theorem exists_cutInto {behind rest : List Char} {predicate : Option Predicate}
    (hselect : afterWholeWord? "select".toList text = some behind)
    (hfrom : cutAtWord? "from".toList true behind = some (list, rest))
    (hsource : source rest = .ok (table, predicate)) (hlist : list ≠ []) (htable : table ≠ []) :
    ∃ clause, CutInto text list table clause ∧ clause.mapM Predicate.ofText = .ok predicate := by
  obtain ⟨select, halone, rfl⟩ := afterWholeWord?_eq_some_iff.mp hselect
  obtain ⟨word, halone', rfl, hnone⟩ := (cutAtWord?_eq_some_iff isKeyword_from).mp hfrom
  rw [source] at hsource
  split at hsource
  · next front clause hwhere =>
    obtain ⟨condition, hcondition, h⟩ := Except.bind_eq_ok_iff.mp hsource
    obtain ⟨rfl, rfl⟩ := Prod.mk.inj (Except.ok.inj h)
    obtain ⟨word', halone'', rfl, hnone'⟩ := (cutAtWord?_eq_some_iff isKeyword_where).mp hwhere
    refine ⟨some clause, .filtered halone (halone'.append select hlist) ?_ hnone hnone', ?_⟩
    · simpa only [List.append_assoc] using halone''.append (select ++ (list ++ word)) htable
    · rw [Option.mapM_some, hcondition]
      rfl
  · next hwhere =>
    obtain ⟨rfl, rfl⟩ := Prod.mk.inj (Except.ok.inj hsource)
    have hnone' := (cutAtWord?_eq_none_iff isKeyword_where).mp hwhere
    exact ⟨none, .all halone (halone'.append select hlist) hnone hnone', rfl⟩

theorem TableNamed.ne_nil {text name : List Char} (h : TableNamed text name) : text ≠ [] := by
  rintro rfl
  obtain ⟨hunquote, hname⟩ := tableNamed_iff.mp h
  exact hname.ne_nil hunquote.symm

theorem column_ne_empty_of_mapM {predicate : Option Predicate}
    (h : clause.mapM Predicate.ofText = .ok predicate) : ∀ p ∈ predicate, p.column ≠ "" := by
  cases clause with
  | none =>
    obtain rfl := Except.ok.inj h
    simp
  | some clause =>
    rw [Option.mapM_some] at h
    cases hclause : Predicate.ofText clause with
    | error e =>
      rw [hclause] at h
      cases h
    | ok p =>
      rw [hclause] at h
      obtain rfl := Except.ok.inj h
      intro p' hp
      obtain rfl := Option.some.inj hp
      exact Predicate.column_ne_empty hclause

/-- A text is a query just if it is a statement that the keywords cut into the list of its columns,
the word that names its table and the clause of its predicate, each read to its end. Where the cut
leaves more than one word for the table, the text is refused. -/
theorem parse_covers_statement (sql : String) :
    (∀ query, parse sql = .ok query ↔ ∃ text list table clause, HasStatement sql.toList text ∧
      CutInto text list table clause ∧ query.ReadFrom list table clause) ∧
    ∀ text list table clause, HasStatement sql.toList text → CutInto text list table clause →
      1 < (words table).length → ∃ e, parse sql = .error e := by
  constructor
  · intro query
    rw [parse_eq_ok]
    constructor
    · rintro ⟨behind, list, rest, table, hselect, hfrom, hcolumns, hne, hsource, htable⟩
      have hlist : list ≠ [] := by
        rintro rfl
        exact hne hcolumns.symm
      obtain ⟨clause, hcut, hpredicate⟩ := exists_cutInto hselect hfrom hsource hlist htable.ne_nil
      exact ⟨_, list, table, clause, statement_eq_iff.mp rfl, hcut, columnNames_eq_iff.mp hcolumns,
        hne, htable, hpredicate, column_ne_empty_of_mapM hpredicate⟩
    · rintro ⟨text, list, table, clause, htext, hcut, hread⟩
      obtain ⟨behind, rest, hselect, hfrom, hsource⟩ := hcut.exists_source_eq
      rw [statement_eq_iff.mpr htext]
      refine ⟨behind, list, rest, table, hselect, hfrom, columnNames_eq_iff.mpr hread.columns,
        hread.columns_ne_nil, ?_, hread.table⟩
      rw [hsource, hread.predicate]
      rfl
  · intro text list table clause htext hcut hwords
    obtain ⟨behind, rest, hselect, hfrom, hsource⟩ := hcut.exists_source_eq
    cases hparse : parse sql with
    | error e => exact ⟨e, rfl⟩
    | ok query =>
      obtain ⟨behind', list', rest', table', hselect', hfrom', -, -, hsource', htable⟩ :=
        parse_eq_ok.mp hparse
      rw [statement_eq_iff.mpr htext, hselect] at hselect'
      obtain rfl := Option.some.inj hselect'
      rw [hfrom] at hfrom'
      obtain ⟨rfl, rfl⟩ := Prod.mk.inj (Option.some.inj hfrom')
      rw [hsource] at hsource'
      obtain ⟨predicate, -, heq⟩ := Except.map_eq_ok_iff.mp hsource'
      obtain ⟨rfl, -⟩ := Prod.mk.inj heq
      obtain ⟨word, hword⟩ := htable.exists_words
      rw [hword] at hwords
      exact absurd hwords (Nat.lt_irrefl 1)

/-- What stands behind the name of the table is not ignored. -/
theorem parse_covers_statement_limit :
    HasStatement "Select a FROM t limit 5 ;".toList "Select a FROM t limit 5".toList ∧
    CutInto "Select a FROM t limit 5".toList " a ".toList " t limit 5".toList none ∧
    1 < (words " t limit 5".toList).length ∧
    (∃ e, parse "Select a FROM t limit 5 ;" = .error e) ∧
    ∃ text list table clause,
      HasStatement "select\ta, COUNT( *) from [t] WHERE `b`='x';".toList text ∧
      CutInto text list table clause ∧
      ReadFrom ⟨"t", ["a", "count(*)"], some ⟨"b", .equal, "x"⟩⟩ list table clause := by
  have htext : HasStatement "Select a FROM t limit 5 ;".toList "Select a FROM t limit 5".toList :=
    statement_eq_iff.mp (by decide +kernel)
  have hselect : StandsAlone "select".toList [] "Select".toList " a FROM t limit 5".toList :=
    ⟨rfl, by simp, by simp [isBlank]⟩
  have hfrom : StandsAlone "from".toList "Select a ".toList "FROM".toList " t limit 5".toList :=
    ⟨rfl, by simp [isBlank], by simp [isBlank]⟩
  have hlist : ¬HasWord "from".toList " a ".toList :=
    (cutAtWord?_eq_none_iff isKeyword_from).mp (by decide +kernel)
  have htable : ¬HasWord "where".toList " t limit 5".toList :=
    (cutAtWord?_eq_none_iff isKeyword_where).mp (by decide +kernel)
  have hcut : CutInto "Select a FROM t limit 5".toList " a ".toList " t limit 5".toList none := by
    have hparts : "Select a FROM t limit 5".toList =
      "Select".toList ++ (" a ".toList ++ ("FROM".toList ++ " t limit 5".toList)) := by decide
    rw [hparts]
    exact .all hselect hfrom hlist htable
  have hwords : 1 < (words " t limit 5".toList).length := by decide +kernel
  have hparse : parse "select\ta, COUNT( *) from [t] WHERE `b`='x';" =
      .ok ⟨"t", ["a", "count(*)"], some ⟨"b", .equal, "x"⟩⟩ := by decide +kernel
  exact ⟨htext, hcut, hwords, (parse_covers_statement _).2 _ _ _ _ htext hcut hwords,
    ((parse_covers_statement _).1 _).mp hparse⟩

end Cut

end Query

end TableFile
