import TableFile.Proofs.Definition.Key

namespace TableFile.Definition

open Text

def literal (s : List Char) : List Char :=
  '\x27' :: (s ++ ['\x27'])

inductive DefaultFront (name : List Char) : (declared text : List Char) → Prop
  | mk {before spelled gap integer gap' word gap'' : List Char} (hbefore : IsBlanks before)
      (hname : NameSpelled name spelled) (hgap : IsGap gap)
      (hinteger : sameLetters "INTEGER".toList integer) (hgap' : IsGap gap')
      (hword : sameLetters "DEFAULT".toList word) (hgap'' : IsBlanks gap'') :
      DefaultFront name (integer ++ (gap' ++ (word ++ gap'')))
        (before ++ (spelled ++ (gap ++ (integer ++ (gap' ++ (word ++ gap''))))))

section Literal

variable {part s : List Char}

theorem closed_literal (hs : '\x27' ∉ s) (nested : Bool) : Closed nested (literal s) :=
  .quoted rfl hs

theorem isTrimmed_literal (s : List Char) : IsTrimmed (literal s) := by
  refine ⟨by simp [literal, isBlank], ?_⟩
  rw [literal, ← List.cons_append, List.getLast?_concat]
  simp [isBlank]

/-- What lacks the mark and has no blanks around it is in front of a text in quotes or within it. -/
theorem infix_canonical_literal_iff (hmark : '\x27' ∉ part) (hpart : IsTrimmed part)
    (hne : part ≠ []) (front s : List Char) : part <:+: canonical (front ++ literal s) ↔
      part <:+: canonical front ∨ part <:+: canonical s := by
  have hblank : isBlank ' ' = true := rfl
  have hhead : part.head? ≠ some ' ' :=
    fun h ↦ Bool.false_ne_true ((hpart.head_not_blank ' ' h).symm.trans hblank)
  have hlast : part.getLast? ≠ some ' ' :=
    fun h ↦ Bool.false_ne_true ((hpart.getLast_not_blank ' ' h).symm.trans hblank)
  obtain ⟨k, hfront⟩ := exists_canonical_append front (literal s)
  obtain ⟨m, hopen⟩ := exists_canonical_append ['\x27'] (s ++ ['\x27'])
  obtain ⟨n, hclose⟩ := exists_canonical_append s ['\x27']
  have hquote : canonical ['\x27'] = ['\x27'] := rfl
  have hliteral : canonical (literal s) = '\x27' :: ((List.replicate m ' ' ++
      (canonical s ++ List.replicate n ' ')) ++ '\x27' :: []) := by
    rw [literal, ← List.singleton_append, hopen, hclose, hquote]
    simp only [List.singleton_append, List.append_assoc]
  rw [hfront, hliteral, ← List.append_assoc, infix_append_cons_iff hmark,
    infix_append_cons_iff hmark, List.infix_nil, or_iff_left hne,
    infix_append_replicate_iff hne hlast, infix_replicate_append_iff hne hhead,
    infix_append_replicate_iff hne hlast]

end Literal

section Other

/-- Apart from its name, a column has no part in what the key makes of the others. -/
theorem exists_applyKey_append_cons (key : List (List Char)) (left right : List Column)
    (name : String) : ∃ left' right' keyed, left'.length = left.length ∧
      (keyed = true → key ≠ []) ∧ ∀ column : Column, column.name = name →
        applyKey key (left ++ column :: right) =
          left' ++ (if keyed then column.withKey else column) :: right' := by
  obtain ⟨ordinal, hordinal⟩ : ∃ ordinal, ∀ column : Column, column.name = name →
      keyOrdinal? key (left ++ column :: right) = ordinal := by
    refine ⟨keyOrdinal? key (left ++ ⟨name, "", 0, false⟩ :: right), fun column hname ↦ ?_⟩
    apply keyOrdinal?_congr
    simp only [List.map_append, List.map_cons, hname]
  refine ⟨left.mapIdx fun i column ↦ if ordinal = some i then column.withKey else column,
    right.mapIdx fun i column ↦ if ordinal = some (i + 1 + left.length) then column.withKey
      else column, decide (ordinal = some left.length), List.length_mapIdx, ?_, ?_⟩
  · rintro hkeyed rfl
    have hnone := hordinal ⟨name, "", 0, false⟩ rfl
    rw [← hnone] at hkeyed
    cases hkeyed
  · intro column hname
    rw [applyKey_eq_mapIdx, hordinal column hname, List.mapIdx_append, List.mapIdx_cons,
      Nat.zero_add]
    simp only [decide_eq_true_eq]

theorem exists_columnsOf_append_cons (before after : List (List Char)) (name : List Char) :
    ∃ left right keyed, (keyed = true → ∃ item ∈ before ++ after,
        isConstraint item ∧ (primaryKey? item).isSome) ∧
      ∀ item, isConstraint item = false → (cutName item).1 = name →
        columnsOf (before ++ item :: after) = left ++
          (if keyed then (column item left.length).withKey else column item left.length) ::
            right := by
  obtain ⟨left, right, keyed, hlength, hkeyed, hcolumns⟩ := exists_applyKey_append_cons
    ((((before ++ after).filter isConstraint).findSome? primaryKey?).getD [])
    ((before.filter (!isConstraint ·)).mapIdx fun i item ↦ column item i)
    ((after.filter (!isConstraint ·)).mapIdx fun i item ↦
      column item (i + 1 + (before.filter (!isConstraint ·)).length)) (.ofList name)
  rw [List.length_mapIdx] at hlength
  refine ⟨left, right, keyed, fun hkey ↦ ?_, fun item hitem hname ↦ ?_⟩
  · cases hfound : ((before ++ after).filter isConstraint).findSome? primaryKey? with
    | none => exact absurd (congrArg (Option.getD · []) hfound) (hkeyed hkey)
    | some key =>
      obtain ⟨item, hmem, hsome⟩ := List.exists_of_findSome?_eq_some hfound
      obtain ⟨hitem, hconstraint⟩ := List.mem_filter.mp hmem
      exact ⟨item, hitem, hconstraint, Option.isSome_of_eq_some hsome⟩
  · have hcolumn : (column item left.length).name = .ofList name := by rw [← hname]; rfl
    have hconstraints : (before ++ item :: after).filter isConstraint =
        (before ++ after).filter isConstraint := by
      rw [List.filter_append, List.filter_cons_of_neg (by simp [hitem]), ← List.filter_append]
    have hdeclared : (before ++ item :: after).filter (!isConstraint ·) =
        before.filter (!isConstraint ·) ++ item :: after.filter (!isConstraint ·) := by
      rw [List.filter_append, List.filter_cons_of_pos (by simp [hitem])]
    rw [← hcolumns _ hcolumn, columnsOf, hconstraints, hdeclared, List.mapIdx_append,
      List.mapIdx_cons, Nat.zero_add, hlength]

end Other

namespace DefaultFront

variable {name declared text : List Char}

theorem closed (h : DefaultFront name declared text) : Closed false text := by
  obtain @⟨before, spelled, gap, integer, gap', word, gap'', hbefore, hname, hgap, hinteger, hgap',
    hword, hgap''⟩ := h
  have hinteger := IsKeyword.of_sameLetters ⟨by simp, by simp⟩ hinteger
  have hword := IsKeyword.of_sameLetters ⟨by simp, by simp⟩ hword
  have hdefault := (closed_of_isKeyword hword false).append (closed_of_isBlanks hgap'')
  have hdeclared :=
    (closed_of_isKeyword hinteger false).append ((closed_of_isBlanks hgap'.blanks).append hdefault)
  exact (closed_of_isBlanks hbefore).append
    ((hname.closed false).append ((closed_of_isBlanks hgap.blanks).append hdeclared))

theorem declaresInteger_append (h : DefaultFront name declared text) (rest : List Char) :
    declaresInteger (declared ++ rest) := by
  obtain @⟨-, -, -, integer, gap', word, gap'', -, -, -, hinteger, hgap', -, -⟩ := h
  have hkeyword := IsKeyword.of_sameLetters ⟨by simp, by simp⟩ hinteger
  have hwords : words ((integer ++ (gap' ++ (word ++ gap''))) ++ rest) =
      integer :: words (gap' ++ (word ++ gap'' ++ rest)) := by
    rw [List.append_assoc, List.append_assoc, hkeyword.isWord.words_append (hgap'.head_blank _)]
  exact declaresInteger_iff.mpr
    ⟨_, _, hwords, sameLetters_iff.mpr (sameLetters_iff.mp hinteger).symm⟩

theorem canonical_eq (h : DefaultFront name declared text) :
    canonical declared = "INTEGER DEFAULT".toList := by
  obtain ⟨-, -, -, hinteger, hgap', hword, hgap''⟩ := h
  obtain ⟨hinteger, hfirst⟩ := isWord_and_upper_eq_of_isUpper (by simp) (by simp) hinteger
  obtain ⟨hword, hsecond⟩ := isWord_and_upper_eq_of_isUpper (by simp) (by simp) hword
  rw [canonical_pair hinteger hgap' hword hgap'', hfirst, hsecond]
  rfl

theorem isTrimmed_append_literal (h : DefaultFront name declared text) (s : List Char) :
    IsTrimmed (declared ++ literal s) := by
  obtain ⟨-, -, -, hinteger, -, -, -⟩ := h
  have hword := (IsKeyword.of_sameLetters ⟨by simp, by simp⟩ hinteger).isWord
  rw [List.append_assoc]
  exact hword.isTrimmed.append hword.ne_nil _ (isTrimmed_literal s) (List.cons_ne_nil _ _)

theorem exists_trim_append (h : DefaultFront name declared text) :
    ∃ spelled gap, NameSpelled name spelled ∧ IsGap gap ∧ ∀ s trail, IsBlanks trail →
      trim (text ++ (literal s ++ trail)) = spelled ++ (gap ++ (declared ++ literal s)) := by
  have hdeclared := h.isTrimmed_append_literal
  obtain @⟨before, spelled, gap, integer, gap', word, gap'', hbefore, hname, hgap, -, -, -, -⟩ := h
  refine ⟨spelled, gap, hname, hgap, fun s trail htrail ↦ ?_⟩
  have hspelled : IsTrimmed spelled := ⟨hname.head_not_blank, hname.getLast_not_blank⟩
  have hne : (integer ++ (gap' ++ (word ++ gap''))) ++ literal s ≠ [] :=
    List.append_ne_nil_of_right_ne_nil _ (List.cons_ne_nil _ _)
  have htrim := (hspelled.append hname.ne_nil gap (hdeclared s) hne).trim_eq
  rw [← trim_append hbefore _ htrail] at htrim
  simpa only [List.append_assoc] using htrim

theorem column_eq (h : DefaultFront name declared text) {spelled gap : List Char}
    (hname : NameSpelled name spelled) (hgap : IsGap gap) (s : List Char) (ordinal : Nat) :
    column (spelled ++ (gap ++ (declared ++ literal s))) ordinal =
      ⟨.ofList name, .ofList (declared ++ literal s), ordinal,
        occursIn "PRIMARY KEY".toList (canonical s)⟩ := by
  have hcut : cutName (spelled ++ (gap ++ (declared ++ literal s))) =
      (name, declared ++ literal s) := by
    rw [cutName_of_spelled hname (hgap.head_blank _), trim_blanks_append hgap.blanks,
      (h.isTrimmed_append_literal s).trim_eq]
  have hkey : occursIn "PRIMARY KEY".toList (canonical (declared ++ literal s)) =
      occursIn "PRIMARY KEY".toList (canonical s) := by
    have htrimmed : IsTrimmed "PRIMARY KEY".toList := ⟨by simp [isBlank], by simp [isBlank]⟩
    have hfront : ¬"PRIMARY KEY".toList <:+: canonical declared := by
      rw [h.canonical_eq]
      decide
    rw [Bool.eq_iff_iff, occursIn_iff, occursIn_iff,
      infix_canonical_literal_iff (by simp) htrimmed (by simp), or_iff_right hfront]
  rw [column, hcut]
  simp only [h.declaresInteger_append, hkey, Bool.true_and]

end DefaultFront

section Default

variable {front tail name declared text trail : List Char} {before : List (List Char)}

/-- Whatever text is the default of a column, the others are the same. The column itself stands for
the row id if the text says `PRIMARY KEY` in some case and with some blanks, or if a key of the
table names it. -/
theorem columns_default (hfront : '(' ∉ front) (htail : ')' ∉ tail)
    (hbefore : ∀ text ∈ before, Closed false text) (htext : DefaultFront name declared text)
    (htrail : IsBlanks trail) (after : List (List Char)) :
    ∃ left right keyed, (keyed = true → ∃ item ∈ items ([','].intercalate (before ++ after)),
        isConstraint item ∧ (primaryKey? item).isSome) ∧
      ∀ s, '\x27' ∉ s →
        columns (tableText front (before ++ (text ++ (literal s ++ trail)) :: after) tail) =
          .ok (left ++ ⟨.ofList name, .ofList (declared ++ literal s), left.length,
            occursIn "PRIMARY KEY".toList (canonical s) || keyed⟩ :: right) := by
  obtain ⟨spelled, gap, hname, hgap, htrim⟩ := htext.exists_trim_append
  obtain ⟨left, right, keyed, hkeyed, hcolumns⟩ :=
    exists_columnsOf_append_cons (before.flatMap items) (items ([','].intercalate after)) name
  rw [← items_intercalate_append hbefore] at hkeyed
  refine ⟨left, right, keyed, hkeyed, fun s hs ↦ ?_⟩
  have hclosed : Closed false (text ++ (literal s ++ trail)) :=
    htext.closed.append ((closed_literal hs false).append (closed_of_isBlanks htrail))
  have hitem : trim (text ++ (literal s ++ trail)) ≠ [] := by
    rw [htrim s trail htrail]
    exact List.append_ne_nil_of_left_ne_nil hname.ne_nil _
  have hcut : (cutName (spelled ++ (gap ++ (declared ++ literal s)))).1 = name := by
    rw [cutName_of_spelled hname (hgap.head_blank _)]
  rw [columns_entry hfront htail hbefore hclosed hitem, htrim s trail htrail,
    hcolumns _ (hname.isConstraint_append (hgap.head_blank _)) hcut, htext.column_eq hname hgap]
  cases keyed with
  | false => rw [if_neg Bool.false_ne_true, Bool.or_false]
  | true =>
    have hinteger : declaresInteger (String.ofList (declared ++ literal s)).toList := by
      rw [String.toList_ofList]
      exact htext.declaresInteger_append _
    rw [if_pos rfl, Column.withKey]
    simp only [hinteger, Bool.or_true]

theorem columns_default_x : ∃ left right keyed,
    (keyed = true → ∃ item ∈ items ([','].intercalate ([] ++ [" y TEXT".toList])),
      isConstraint item ∧ (primaryKey? item).isSome) ∧
    ∀ s, '\x27' ∉ s →
      columns (tableText "CREATE TABLE t ".toList
          ([] ++ ("x INTEGER DEFAULT ".toList ++ (literal s ++ [])) :: [" y TEXT".toList]) []) =
        .ok (left ++ ⟨"x", .ofList ("INTEGER DEFAULT ".toList ++ literal s), left.length,
          occursIn "PRIMARY KEY".toList (canonical s) || keyed⟩ :: right) := by
  have hspace : IsGap [' '] := .singleton rfl
  have hx : NameSpelled ['x'] ['x'] := .bare ⟨by simp, by simp, by simp [sameLetters]⟩
  have hinteger : sameLetters "INTEGER".toList "INTEGER".toList := by simp [sameLetters]
  have hdefault : sameLetters "DEFAULT".toList "DEFAULT".toList := by simp [sameLetters]
  have htext : DefaultFront ['x'] "INTEGER DEFAULT ".toList "x INTEGER DEFAULT ".toList :=
    .mk IsBlanks.nil hx hspace hinteger hspace hdefault hspace.blanks
  exact columns_default (by simp) List.not_mem_nil (List.forall_mem_nil _) htext IsBlanks.nil _

/-- No key is in the table, but the text of the default passes for one. -/
theorem columns_default_key :
    columns "CREATE TABLE t (x INTEGER DEFAULT 'PRIMARY KEY')" =
        .ok [⟨"x", "INTEGER DEFAULT 'PRIMARY KEY'", 0, true⟩] ∧
      columns "CREATE TABLE t (x INTEGER DEFAULT 'none')" =
        .ok [⟨"x", "INTEGER DEFAULT 'none'", 0, false⟩] :=
  ⟨by decide +kernel, by decide +kernel⟩

end Default

end TableFile.Definition
