import TableFile.Proofs.Query.Coverage
import TableFile.Proofs.Text.Quotes

namespace TableFile

open Text

namespace Predicate

variable {name front rest : List Char} {sign : Char} {predicate : Predicate}

theorem column_of_ofText (hfront : ∀ c ∈ front, isOperatorSign c = false)
    (hsign : isOperatorSign sign) (h : ofText (front ++ sign :: rest) = .ok predicate) :
    predicate.column = .ofList (unquote (trim front)) := by
  rw [ofText_append_cons hfront hsign] at h
  obtain ⟨operator, -, h⟩ := Except.bind_eq_ok_iff.mp h
  split at h
  · cases h
  · obtain ⟨value, -, h⟩ := Except.bind_eq_ok_iff.mp h
    rw [← Except.ok.inj h]

def quotedClause (name content : List Char) : List Char :=
  spacedQuotes name ++ '=' :: ' ' :: Query.Literal.write content

/-- The column of such a clause is the name if and only if the name has no sign of an operator. -/
theorem ofText_quotedClause_iff (hne : name ≠ []) (hquote : '"' ∉ name) (content : List Char) :
    ofText (quotedClause name content) = .ok ⟨.ofList name, .equal, .ofList content⟩ ↔
      ∀ c ∈ name, isOperatorSign c = false := by
  constructor
  · intro h
    cases hfind : name.find? isOperatorSign with
    | none => simpa using List.find?_eq_none.mp hfind
    | some sign =>
      obtain ⟨hsign, s, t, rfl, hs⟩ := List.find?_eq_some_iff_append.mp hfind
      have hfront : ∀ c ∈ ' ' :: '"' :: s, isOperatorSign c = false :=
        List.forall_mem_cons.mpr ⟨rfl, List.forall_mem_cons.mpr ⟨rfl, by simpa using hs⟩⟩
      obtain ⟨rest, hcut⟩ : ∃ rest,
          quotedClause (s ++ sign :: t) content = (' ' :: '"' :: s) ++ sign :: rest := by
        rw [quotedClause, spacedQuotes, inQuotes]
        simp only [List.append_assoc, List.cons_append]
        exact ⟨_, rfl⟩
      rw [hcut] at h
      have hcolumn := column_of_ofText hfront hsign h
      have htrim : trim (' ' :: '"' :: s) = trim ('"' :: s) := trim_blanks_append (.singleton rfl) _
      have hmem := quote_mem_unquote fun hmem ↦ hquote (List.mem_append_left _ hmem)
      rw [htrim] at hcolumn
      rw [← String.ofList_inj.mp hcolumn] at hmem
      exact absurd hmem hquote
  · intro hnone
    have hfront : ∀ c ∈ spacedQuotes name, isOperatorSign c = false :=
      List.forall_mem_cons.mpr ⟨rfl, List.forall_mem_append.mpr
        ⟨forall_mem_inQuotes rfl hnone, List.forall_mem_singleton.mpr rfl⟩⟩
    have hvalue : trim (' ' :: Query.Literal.write content) = Query.Literal.write content :=
      (trim_blanks_append (.singleton rfl) _).trans (Query.Literal.trim_write content)
    rw [quotedClause, ofText_append_cons hfront rfl, trim_spacedQuotes, unquote_inQuotes, hvalue]
    simp only [operatorAt, Except.ok_bind, if_neg hne, Query.Literal.parse_write]
    rfl

end Predicate

namespace Query

section Columns

variable {name piece list : List Char}

theorem columnNames_append_cons (piece list : List Char) :
    columnNames (piece ++ ',' :: list) = columnNames piece ++ columnNames list := by
  simp only [columnNames_eq_filterMap, splitWhere_append_cons (p := (· = ',')) (c := ',') rfl,
    List.filterMap_append]

/-- A piece that begins with a mark asks for what that encloses, or for all of the piece. -/
theorem columnNames_quote (hcomma : ',' ∉ piece) :
    columnNames (' ' :: '"' :: piece) = [.ofList (unquote (trim ('"' :: piece)))] := by
  have hsplit : splitWhere (· = ',') (' ' :: '"' :: piece) = [' ' :: '"' :: piece] := by
    apply splitWhere_of_forall
    intro c hc
    rw [decide_eq_false_iff_not]
    rintro rfl
    simp [hcomma] at hc
  have htrim : trim (' ' :: '"' :: piece) = trim ('"' :: piece) :=
    trim_blanks_append (.singleton rfl) _
  obtain ⟨t, ht, -⟩ := exists_trim_cons (c := '"') rfl piece
  have hcount : sameLetters (('"' :: t).filter (!isBlank ·)) countAll.toList = false := by
    rw [List.filter_cons_of_pos rfl]
    simp [sameLetters, countAll]
  rw [columnNames, hsplit, List.map_singleton, htrim, ht, List.filter_cons_of_pos (by simp)]
  simp only [List.filter_nil, List.map_singleton, columnName, hcount, Bool.false_eq_true, if_false]

theorem columnNames_brokenOff (hquote : '"' ∉ name) (hfirst : '"' ∉ list.takeWhile (· ≠ ',')) :
    columnNames (' ' :: '"' :: list) ≠ [.ofList name] := by
  intro h
  have hne {piece : List Char} (hpiece : '"' ∉ piece) :
      String.ofList (unquote (trim ('"' :: piece))) ≠ .ofList name := by
    intro heq
    have hmem := quote_mem_unquote hpiece
    rw [String.ofList_inj.mp heq] at hmem
    exact hquote hmem
  by_cases hcomma : ',' ∈ list
  · obtain ⟨piece, rest, rfl, hpiece⟩ := List.eq_append_cons_of_mem hcomma
    rw [takeWhile_ne hpiece] at hfirst
    have hcolumns := columnNames_append_cons (' ' :: '"' :: piece) rest
    rw [columnNames_quote hpiece] at hcolumns
    exact hne hfirst (List.cons.inj (hcolumns.symm.trans h)).1
  · rw [List.takeWhile_eq_self_iff.mpr (forall_ne hcomma)] at hfirst
    rw [columnNames_quote hcomma] at h
    exact hne hfirst (List.cons.inj h).1

theorem columnNames_spacedQuotes_iff (hquote : '"' ∉ name) :
    columnNames (spacedQuotes name) = [.ofList name] ↔ ',' ∉ name := by
  constructor
  · intro h hcomma
    obtain ⟨piece, rest, rfl, hpiece⟩ := List.eq_append_cons_of_mem hcomma
    have hbehind : (piece ++ ',' :: rest) ++ ['"'] ++ [' '] =
        piece ++ ',' :: (rest ++ ['"'] ++ [' ']) := by
      simp only [List.append_assoc, List.cons_append]
    refine columnNames_brokenOff hquote ?_ h
    change '"' ∉ ((piece ++ ',' :: rest) ++ ['"'] ++ [' ']).takeWhile (· ≠ ',')
    rw [hbehind, takeWhile_ne hpiece]
    exact fun hmem ↦ hquote (List.mem_append_left _ hmem)
  · intro hcomma
    have hpiece : ',' ∉ name ++ ['"'] ++ [' '] := by simp [hcomma]
    have hname : trim ('"' :: (name ++ ['"'] ++ [' '])) = inQuotes name :=
      (trim_append_blanks (inQuotes name) (.singleton rfl)).trans (trim_inQuotes name)
    have hcolumns := columnNames_quote hpiece
    rw [hname, unquote_inQuotes] at hcolumns
    exact hcolumns

end Columns

section Keywords

variable {word spelled name list rest tail : List Char}

theorem standsAlone_spacedQuotes (hsame : sameLetters word spelled)
    (htail : ∀ c ∈ tail.head?, isBlank c) (name : List Char) :
    StandsAlone word (spacedQuotes name) spelled tail := by
  refine ⟨hsame, ?_, htail⟩
  rw [spacedQuotes, ← List.cons_append, List.getLast?_concat]
  rintro c ⟨⟩
  rfl

theorem hasWord_spacedQuotes_iff (hword : IsKeyword word) :
    HasWord word (spacedQuotes name) ↔ HasWord word (inQuotes name) := by
  rw [spacedQuotes, hasWord_cons_iff hword rfl, hasWord_concat_iff hword rfl]

theorem cutAtWord?_spacedQuotes (hword : IsKeyword word) (hsame : sameLetters word spelled)
    (htail : ∀ c ∈ tail.head?, isBlank c) (hname : ¬HasWord word (inQuotes name)) :
    cutAtWord? word true (spacedQuotes name ++ (spelled ++ tail)) =
      some (spacedQuotes name, tail) :=
  (cutAtWord?_eq_some_iff hword).mpr ⟨spelled, standsAlone_spacedQuotes hsame htail name, rfl,
    (hasWord_spacedQuotes_iff hword).not.mpr hname⟩

theorem not_hasWord_inQuotes (hword : IsKeyword word) (hname : ∀ c ∈ name, isBlank c = false) :
    ¬HasWord word (inQuotes name) := by
  have hall : ∀ c ∈ inQuotes name, isBlank c = false := forall_mem_inQuotes rfl hname
  rintro ⟨before, spelled, after, halone, heq⟩
  rcases List.eq_nil_or_concat' before with rfl | ⟨before, c, rfl⟩
  · have hspelled := hword.of_sameLetters halone.sameLetters
    obtain ⟨c, spelled, rfl⟩ := List.exists_cons_of_ne_nil hspelled.ne_nil
    obtain ⟨rfl, -⟩ := List.cons.inj heq
    have halpha := hspelled.isAlpha '"' List.mem_cons_self
    cases halpha
  · have hblank : isBlank c := by
      apply halone.blank_before c
      rw [List.getLast?_concat]
      exact rfl
    have hmem : c ∈ inQuotes name := by
      rw [heq]
      exact List.mem_append_left _ (List.mem_append_right _ (List.mem_singleton_self c))
    rw [hall c hmem] at hblank
    cases hblank

/-- Where the list asks for the name, it was not cut within the name. -/
theorem not_hasWord_of_columnNames (hword : IsKeyword word) (hsame : sameLetters word spelled)
    (htail : ∀ c ∈ tail.head?, isBlank c) (hquote : '"' ∉ name)
    (hcut : cutAtWord? word true (spacedQuotes name ++ (spelled ++ tail)) = some (list, rest))
    (hcolumns : columnNames list = [.ofList name]) : ¬HasWord word (inQuotes name) := by
  intro hname
  have hfound := (cutAtWord?_eq_none_iff hword).not_left.mpr
    ((hasWord_spacedQuotes_iff hword).mpr hname)
  obtain ⟨⟨list', rest'⟩, hinner⟩ := Option.ne_none_iff_exists'.mp hfound
  rw [cutAtWord?_standsAlone hword (standsAlone_spacedQuotes hsame htail name) fun _ ↦ rfl,
    hinner] at hcut
  obtain ⟨rfl, -⟩ := Prod.mk.inj (Option.some.inj hcut)
  obtain ⟨spelled', halone, heq, -⟩ := exists_of_cutAtWord? hinner
  have hspelled := hword.of_sameLetters halone.sameLetters
  match list', heq with
  | [], _ => cases hcolumns
  | [c], heq =>
    obtain ⟨rfl, -⟩ := List.cons.inj heq
    cases hcolumns
  | c :: d :: list', heq =>
    simp only [spacedQuotes, inQuotes, List.cons_append, List.cons.injEq, List.append_assoc] at heq
    obtain ⟨rfl, rfl, hbehind⟩ := heq
    rcases List.append_eq_append_iff.mp hbehind with ⟨t, -, ht⟩ | ⟨t, rfl, -⟩
    · -- The word is made of letters, and behind the name there are none.
      obtain ⟨c, spelled', rfl⟩ := List.exists_cons_of_ne_nil hspelled.ne_nil
      have hmem : c ∈ ['"', ' '] := ht ▸ List.mem_append_right t List.mem_cons_self
      have halpha := hspelled.isAlpha c List.mem_cons_self
      rcases List.mem_pair.mp hmem with rfl | rfl <;> cases halpha
    · refine columnNames_brokenOff hquote (fun hmem ↦ ?_) hcolumns
      exact hquote (List.mem_append_left _ ((List.takeWhile_sublist _).subset hmem))

end Keywords

section Parse

variable {table column compared value : String}

/-- Names in which there is nothing that the text of a query is cut at, or refused for. -/
structure Uncut (table column compared : List Char) : Prop where
  column_no_comma : ',' ∉ column
  column_no_from : ¬HasWord "from".toList (inQuotes column)
  column_not_count : column ≠ countAll.toList
  table_not_blank : ∀ c ∈ table, isBlank c = false
  compared_no_sign : ∀ c ∈ compared, Predicate.isOperatorSign c = false

def quotedQuery (table column compared value : String) : String :=
  "SELECT \"" ++ column ++ "\" FROM \"" ++ table ++ "\" WHERE \"" ++ compared ++ "\" = " ++
    .ofList (Literal.write value.toList)

theorem toList_quotedQuery (table column compared value : String) :
    (quotedQuery table column compared value).toList =
      "SELECT".toList ++ (spacedQuotes column.toList ++ ("FROM".toList ++
        (spacedQuotes table.toList ++ ("WHERE".toList ++
          Predicate.quotedClause compared.toList value.toList)))) := by
  unfold quotedQuery Predicate.quotedClause
  simp [spacedQuotes, inQuotes]

theorem statement_append_write (front content : List Char) :
    statement ("SELECT".toList ++ (front ++ Literal.write content)) =
      "SELECT".toList ++ (front ++ Literal.write content) := by
  have hlast : ("SELECT".toList ++ (front ++ Literal.write content)).getLast? = some '\x27' := by
    rw [← List.append_assoc, Literal.getLast?_append_write]
  have hstatement := @statement_append _ _ [] [] [] [] (isKeyword_select.of_sameLetters rfl).isWord
    ⟨_, hlast, rfl, by decide⟩ IsBlanks.nil IsBlanks.nil (List.forall_mem_nil _) IsBlanks.nil
  simpa only [List.nil_append, List.append_nil] using hstatement

theorem afterSelect_quotedQuery (table column compared value : String) :
    afterWholeWord? "select".toList (statement (quotedQuery table column compared value).toList) =
      some (spacedQuotes column.toList ++ ("FROM".toList ++ (spacedQuotes table.toList ++
        ("WHERE".toList ++ Predicate.quotedClause compared.toList value.toList)))) := by
  obtain ⟨front, hfront⟩ : ∃ front, spacedQuotes column.toList ++ ("FROM".toList ++
      (spacedQuotes table.toList ++ ("WHERE".toList ++
        Predicate.quotedClause compared.toList value.toList))) =
      front ++ Literal.write value.toList := by
    refine ⟨spacedQuotes column.toList ++ ("FROM".toList ++ (spacedQuotes table.toList ++
      ("WHERE".toList ++ (spacedQuotes compared.toList ++ ['=', ' '])))), ?_⟩
    rw [Predicate.quotedClause]
    simp only [List.append_assoc, List.cons_append, List.nil_append]
  rw [toList_quotedQuery, hfront, statement_append_write, ← hfront]
  exact afterWholeWord?_append rfl (head_spacedQuotes_blank _ _)

theorem source_spacedQuotes {name : List Char} (hname : ∀ c ∈ name, isBlank c = false)
    (column content : List Char) :
    source (spacedQuotes name ++ ("WHERE".toList ++ Predicate.quotedClause column content)) = do
      let predicate ← Predicate.ofText (Predicate.quotedClause column content)
      return (spacedQuotes name, some predicate) := by
  have hclause : ∀ c ∈ (Predicate.quotedClause column content).head?, isBlank c :=
    head_spacedQuotes_blank _ _
  rw [source, cutAtWord?_spacedQuotes isKeyword_where rfl hclause
    (not_hasWord_inQuotes isKeyword_where hname)]

theorem tableNamed_spacedQuotes {name : List Char} (hname : IsWord name) :
    TableNamed (spacedQuotes name) name := by
  refine tableNamed_iff.mpr ⟨?_, hname⟩
  rw [trim_spacedQuotes, unquote_inQuotes]

theorem parse_quotedQuery (htable : table ≠ "") (hcompared : compared ≠ "")
    (hcolumn_quote : '"' ∉ column.toList) (hcompared_quote : '"' ∉ compared.toList)
    (h : Uncut table.toList column.toList compared.toList) :
    parse (quotedQuery table column compared value) =
      .ok ⟨table, [column], some ⟨compared, .equal, value⟩⟩ := by
  have hword : IsWord table.toList :=
    ⟨fun hnil ↦ htable (String.toList_eq_nil_iff.mp hnil), h.table_not_blank⟩
  have hcolumns := (columnNames_spacedQuotes_iff hcolumn_quote).mpr h.column_no_comma
  have hpredicate := (Predicate.ofText_quotedClause_iff
    (fun hnil ↦ hcompared (String.toList_eq_nil_iff.mp hnil)) hcompared_quote value.toList).mpr
      h.compared_no_sign
  rw [String.ofList_toList] at hcolumns
  rw [String.ofList_toList, String.ofList_toList] at hpredicate
  refine parse_eq_ok.mpr ⟨_, _, _, _, afterSelect_quotedQuery table column compared value,
    cutAtWord?_spacedQuotes isKeyword_from rfl (head_spacedQuotes_blank _ _) h.column_no_from,
    hcolumns, List.cons_ne_nil _ _, ?_, tableNamed_spacedQuotes hword⟩
  rw [source_spacedQuotes h.table_not_blank, hpredicate]
  rfl

theorem uncut_of_parse (hcompared : compared ≠ "") (hcolumn_quote : '"' ∉ column.toList)
    (hcompared_quote : '"' ∉ compared.toList) (hcolumn : column ≠ countAll)
    (h : parse (quotedQuery table column compared value) =
      .ok ⟨table, [column], some ⟨compared, .equal, value⟩⟩) :
    Uncut table.toList column.toList compared.toList := by
  obtain ⟨behind, list, rest, source, hselect, hcut, hlist, -, hsource, hnamed⟩ := parse_eq_ok.mp h
  rw [afterSelect_quotedQuery] at hselect
  obtain rfl := Option.some.inj hselect
  have hlist' : columnNames list = [.ofList column.toList] := by rw [hlist, String.ofList_toList]
  have hnone := not_hasWord_of_columnNames isKeyword_from rfl (head_spacedQuotes_blank _ _)
    hcolumn_quote hcut hlist'
  rw [cutAtWord?_spacedQuotes isKeyword_from rfl (head_spacedQuotes_blank _ _) hnone] at hcut
  obtain ⟨rfl, rfl⟩ := Prod.mk.inj (Option.some.inj hcut)
  have hblank := (tableNamed_iff.mp hnamed).2.not_blank
  rw [source_spacedQuotes hblank] at hsource
  obtain ⟨predicate, htext, hsource⟩ := Except.bind_eq_ok_iff.mp hsource
  obtain ⟨-, heq⟩ := Prod.mk.inj (Except.ok.inj hsource)
  obtain rfl := Option.some.inj heq
  have hpredicate := Predicate.ofText_quotedClause_iff
    (fun hnil ↦ hcompared (String.toList_eq_nil_iff.mp hnil)) hcompared_quote value.toList
  rw [String.ofList_toList, String.ofList_toList] at hpredicate
  exact ⟨(columnNames_spacedQuotes_iff hcolumn_quote).mp hlist', hnone,
    fun hall ↦ hcolumn (String.toList_inj.mp hall), hblank, hpredicate.mp htext⟩

/-- A query with all names in quotes is read as it is meant if and only if nothing in the names is
cut at. -/
theorem parse_quotedQuery_iff (htable : table ≠ "") (hcompared : compared ≠ "")
    (hcolumn_quote : '"' ∉ column.toList) (hcompared_quote : '"' ∉ compared.toList) :
    (∃ query, parse (quotedQuery table column compared value) = .ok query ∧ query.table = table ∧
      query.columns = [column] ∧ query.countsRows = false ∧
      query.predicate = some ⟨compared, .equal, value⟩) ↔
    Uncut table.toList column.toList compared.toList := by
  constructor
  · rintro ⟨⟨_, _, _⟩, hparse, rfl, rfl, hcount, rfl⟩
    refine uncut_of_parse hcompared hcolumn_quote hcompared_quote ?_ hparse
    rintro rfl
    cases hcount
  · intro h
    refine ⟨_, parse_quotedQuery htable hcompared hcolumn_quote hcompared_quote h, rfl, rfl, ?_,
      rfl⟩
    have hone : column ≠ countAll := fun heq ↦ h.column_not_count (congrArg String.toList heq)
    simpa [countsRows] using hone

/-- Signs of operators in the column to show, and a keyword in the one compared. -/
theorem parse_quotedQuery_keyword :
    ∃ query, parse "SELECT \"a = b\" FROM \"t\" WHERE \"in where\" = 'it''s'" = .ok query ∧
      query.table = "t" ∧ query.columns = ["a = b"] ∧ query.countsRows = false ∧
      query.predicate = some ⟨"in where", .equal, "it's"⟩ := by
  have hsql : quotedQuery "t" "a = b" "in where" "it's" =
      "SELECT \"a = b\" FROM \"t\" WHERE \"in where\" = 'it''s'" := by decide +kernel
  have hfrom : ¬HasWord "from".toList (inQuotes "a = b".toList) :=
    (cutAtWord?_eq_none_iff isKeyword_from).mp (by decide +kernel)
  have huncut : Uncut "t".toList "a = b".toList "in where".toList :=
    ⟨by decide, hfrom, by decide, by simp [isBlank], by simp [Predicate.isOperatorSign]⟩
  rw [← hsql]
  exact (parse_quotedQuery_iff (by decide) (by decide) (by decide) (by decide)).mpr huncut

theorem parse_quotedQuery_comma :
    quotedQuery "t" "a,b" "w" "v" = "SELECT \"a,b\" FROM \"t\" WHERE \"w\" = 'v'" ∧
    parse (quotedQuery "t" "a,b" "w" "v") =
      .ok ⟨"t", ["\"a", "b\""], some ⟨"w", .equal, "v"⟩⟩ ∧
    ¬∃ query, parse (quotedQuery "t" "a,b" "w" "v") = .ok query ∧ query.columns = ["a,b"] := by
  have hparse : parse (quotedQuery "t" "a,b" "w" "v") =
      .ok ⟨"t", ["\"a", "b\""], some ⟨"w", .equal, "v"⟩⟩ := by decide +kernel
  refine ⟨by decide +kernel, hparse, ?_⟩
  rintro ⟨query, hquery, hcolumns⟩
  rw [hparse] at hquery
  rw [← Except.ok.inj hquery] at hcolumns
  exact absurd hcolumns (by decide)

end Parse

end Query

end TableFile
