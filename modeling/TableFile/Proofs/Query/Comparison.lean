import TableFile.Proofs.Decimal.Integer
import TableFile.Proofs.Query.Meaning

namespace TableFile

theorem Value.display_of_integer? {value : Value} {n : Int64} (h : value.integer? = some n) :
    value.display = toString n.toInt := by
  cases value <;> cases h <;> rfl

theorem Value.isNull_eq_false_iff {value : Value} : value.isNull = false ↔ value ≠ .null := by
  cases value <;> simp only [isNull, ne_eq, reduceCtorEq, not_false_eq_true, not_true_eq_false,
    Bool.true_eq_false]

/-- Whether a value is what a literal says: it shows as the literal, or it is the integer that the
literal spells. Null is nothing. -/
def Value.Equals (value : Value) (literal : String) : Prop :=
  value ≠ .null ∧ (value.display = literal ∨
    value.integer?.isSome ∧ value.integer? = Decimal.integer? literal.toList)

instance (value : Value) (literal : String) : Decidable (value.Equals literal) :=
  inferInstanceAs (Decidable (_ ∧ _))

theorem Predicate.holds_eq {predicate : Predicate} (value : Value)
    (h : predicate.operator = .equal) :
    predicate.holds value = .ok (decide (value.Equals predicate.value)) := by
  rw [holds, if_pos h, Except.ok.injEq, Bool.eq_iff_iff, decide_eq_true_iff, Value.Equals]
  cases hi : value.integer? with
  | none =>
    simp only [Bool.and_eq_true, Bool.not_eq_true', Value.isNull_eq_false_iff, beq_iff_eq,
      Option.isSome_none, Bool.false_eq_true, false_and, or_false]
  | some n =>
    have hnull : value ≠ .null := by
      rintro rfl
      cases hi
    have hdisplay := Value.display_of_integer? hi
    cases hl : Decimal.integer? predicate.value.toList with
    | none =>
      simp only [Bool.and_eq_true, Bool.not_eq_true', Value.isNull_eq_false_iff, beq_iff_eq,
        reduceCtorEq, and_false, or_false]
    | some m =>
      have hshows : value.display = predicate.value → n = m := by
        intro hv
        rw [← hv, hdisplay, Decimal.integer?_toString] at hl
        exact Option.some.inj hl
      simpa [hnull] using hshows

theorem Value.integer_equals_iff {m n : Int64} :
    (Value.integer m).Equals (toString n.toInt) ↔ m = n := by
  have hread (k : Int64) := Decimal.integer?_toString k
  constructor
  · rintro ⟨-, htext | ⟨-, hnumber⟩⟩
    · have h := hread m
      rw [show toString m.toInt = toString n.toInt from htext, hread n] at h
      exact (Option.some.inj h).symm
    · exact Option.some.inj (hnumber.trans (hread n))
  · rintro rfl
    exact ⟨nofun, .inl rfl⟩

namespace Query

theorem answer_eq_selected {query : Query} {schema : Schema} {page : Page}
    (hcount : query.countsRows = false) (hkind : page.kind = .tableLeaf)
    (hcells : ∀ cell ∈ page.cells, (Row.ofCell? cell).isSome)
    (hunknown : query.unknown? schema = none)
    (hpredicate : query.predicate.bind Predicate.fault? = none) :
    query.answer schema page = .ok (.rows ((page.rows.filter (query.selects schema)).map
      (·.texts (query.shown schema)))) := by
  have hfault : page.cells.findSome? (fault? query.predicate) = none := by
    refine List.findSome?_eq_none_iff.mpr fun cell hcell ↦ fault?_eq_none ?_ hpredicate
    exact (Row.isSome_ofCell?_iff (fun c hc ↦ (Page.kind_of_mem_cells hc).trans hkind) hcell).mp
      (hcells cell hcell)
  rw [answer_eq_of_countsRows schema page hcount, meaning, if_neg (not_not.mpr hkind), hunknown,
    hfault]

variable {name : String} {schema : Schema} {page : Page} {column : Column}

theorem answer_singleton (table : String) (predicate : Option Predicate)
    (hkind : page.kind = .tableLeaf) (hcells : ∀ cell ∈ page.cells, (Row.ofCell? cell).isSome)
    (hcolumn : schema.column? name = some column) (hstar : name ≠ "*") (hcount : name ≠ countAll)
    (hpredicate : ∀ p ∈ predicate, p.column = name ∧ p.operator = .equal) :
    answer ⟨table, [name], predicate⟩ schema page =
      .ok (.rows ((page.rows.filter fun row ↦ predicate.all fun p ↦
        (row.value column).Equals p.value).map (·.texts [column]))) := by
  have hcounts : countsRows ⟨table, [name], predicate⟩ = false := by simpa [countsRows] using hcount
  have hshown : shown ⟨table, [name], predicate⟩ schema = [column] := by
    simp [shown, hstar, hcolumn]
  cases predicate with
  | none =>
    rw [answer_eq_selected hcounts hkind hcells (by simp [unknown?, shownNames, hstar, hcolumn])
      rfl, hshown]
    rfl
  | some p =>
    obtain ⟨rfl, hequal⟩ := hpredicate p rfl
    rw [answer_eq_selected hcounts hkind hcells (by simp [unknown?, shownNames, hstar, hcolumn])
      (by simp [Predicate.fault?, hequal]), hshown]
    have hselects : selects ⟨table, [p.column], some p⟩ schema =
        fun row ↦ decide ((row.value column).Equals p.value) := by
      funext row
      simp [selects, hcolumn, Predicate.holds_eq _ hequal]
    rw [hselects]
    rfl

/-- Filtering a column by a literal keeps, of the rows that showing the column gives, those whose
value the literal names. A text that is shown selects its own row, null is never selected, and
where a column stands for the row id, a number selects the row of that id. -/
theorem answer_where (table : String) (hkind : page.kind = .tableLeaf)
    (hcells : ∀ cell ∈ page.cells, (Row.ofCell? cell).isSome)
    (hcolumn : schema.column name = .ok column) (hstar : name ≠ "*") (hcount : name ≠ countAll) :
    answer ⟨table, [name], none⟩ schema page = .ok (.rows (page.rows.map (·.texts [column]))) ∧
    (∀ literal, answer ⟨table, [name], some ⟨name, .equal, literal⟩⟩ schema page =
      .ok (.rows ((page.rows.filter fun row ↦ (row.value column).Equals literal).map
        (·.texts [column])))) ∧
    (∀ row ∈ page.rows, row.value column ≠ .null →
      row ∈ page.rows.filter fun r ↦ (r.value column).Equals (row.value column).display) ∧
    (∀ literal, ∀ row ∈ page.rows.filter fun r ↦ (r.value column).Equals literal,
      row.value column ≠ .null) ∧
    (column.isRowId → (∀ row ∈ page.rows, row.stored column = .null) → ∀ n : Int64,
      answer ⟨table, [name], some ⟨name, .equal, toString n.toInt⟩⟩ schema page =
        .ok (.rows ((page.rows.filter (·.rowId = n)).map (·.texts [column])))) := by
  have hcolumn : schema.column? name = some column := by
    rw [Schema.column_eq] at hcolumn
    split at hcolumn
    · next h => rw [h, Except.ok.inj hcolumn]
    · cases hcolumn
  have hwhere (literal : String) :=
    answer_singleton table (some ⟨name, .equal, literal⟩) hkind hcells hcolumn hstar hcount
      (by simp)
  refine ⟨?_, fun literal ↦ by simpa using hwhere literal, fun row hrow hnull ↦ ?_,
    fun literal row hrow ↦ ?_, fun hrowId hstored n ↦ ?_⟩
  · simpa using answer_singleton table none hkind hcells hcolumn hstar hcount (by simp)
  · exact List.mem_filter.mpr ⟨hrow, decide_eq_true ⟨hnull, .inl rfl⟩⟩
  · exact (of_decide_eq_true (List.mem_filter.mp hrow).2).1
  · rw [hwhere]
    have hselects : ∀ row ∈ page.rows,
        decide ((row.value column).Equals (toString n.toInt)) = decide (row.rowId = n) := by
      intro row hrow
      have hvalue : row.value column = .integer row.rowId := by
        rw [Row.value, if_pos ⟨hrowId, hstored row hrow⟩]
      simp only [hvalue, Value.integer_equals_iff]
    simp only [Option.all_some, List.filter_congr hselects]

theorem answer_where_twoRows :
    (∀ cell ∈ Page.twoRows.cells, (Row.ofCell? cell).isSome) ∧
    Schema.oneColumn.column "ID" = .ok ⟨"id", "INTEGER PRIMARY KEY", 0, true⟩ ∧
    answer ⟨"t", ["ID"], some ⟨"ID", .equal, "+5"⟩⟩ .oneColumn .twoRows = .ok (.rows [["5"]]) :=
  ⟨by decide +kernel, rfl,
    ((answer_where _ rfl (by decide +kernel) rfl (by decide) (by decide)).2.1 "+5").trans
      (by decide +kernel)⟩

end Query

end TableFile
