import TableFile.Proofs.Database.Rows
import TableFile.Proofs.Query.Meaning
import TableFile.Proofs.Schema.Resolve

namespace TableFile.Database

theorem mem_pageSizes_le {pageSize : Nat} (h : pageSize ∈ pageSizes) :
    512 ≤ pageSize ∧ pageSize ≤ 65536 := by
  revert pageSize
  decide

def front (pageSize : Nat) : Bytes :=
  magic ++ Bytes.ofNat 2 (if pageSize = 65536 then 1 else pageSize)

theorem length_magic : magic.length = 16 := by
  decide

theorem length_front (pageSize : Nat) : (front pageSize).length = 18 := by
  rw [front, List.length_append, length_magic, Bytes.length_ofNat]

def entryRows (entries : List SchemaEntry) : List (Int64 × List Value) :=
  entries.mapIdx fun i entry ↦ (.ofNat (i + 1), entry.toValues)

theorem forall₂_entryRows (entries : List SchemaEntry) :
    List.Forall₂ (fun row entry ↦ row.2 = entry.toValues) (entryRows entries) entries := by
  refine List.forall₂_of_length_eq_of_get List.length_mapIdx fun i hrow hentry ↦ ?_
  simp [entryRows]

theorem isStorable_of_mem_entryRows {entries : List SchemaEntry} :
    ∀ row ∈ entryRows entries, ∀ value ∈ row.2, value.IsStorable := by
  intro row hrow value hvalue
  obtain ⟨i, hi, rfl⟩ := List.mem_mapIdx.mp hrow
  exact SchemaEntry.isStorable_of_mem_toValues hvalue

variable {pageSize : Nat} {entries : List SchemaEntry} {pages : List Bytes} {file : Bytes}

theorem exists_first_of_layout? (h : layout? pageSize entries pages = some file) :
    ∃ first, tablePage? pageSize 1 (entryRows entries) = some first ∧
      file = front pageSize ++ first.drop 18 ++ pages.flatten := by
  obtain ⟨first, hfirst, hfile⟩ := Option.bind_eq_some_iff.mp h
  refine ⟨first, hfirst, ?_⟩
  rw [← Option.some.inj hfile, ← length_front pageSize, front]

theorem statedPageSize_front (h : pageSize ∈ pageSizes) (rest : Bytes) :
    statedPageSize (front pageSize ++ rest) = pageSize := by
  have hstated : ((front pageSize ++ rest).drop 16).take 2 =
      Bytes.ofNat 2 (if pageSize = 65536 then 1 else pageSize) := by
    rw [front, List.append_assoc, List.drop_left' length_magic,
      List.take_left' (Bytes.length_ofNat _ _)]
  rw [statedPageSize, hstated, Bytes.bigEndian_ofNat]
  clear hstated
  revert pageSize
  decide

theorem length_tablePage? {number : UInt32} {rows : List (Int64 × List Value)} {page : Bytes}
    (h : tablePage? pageSize number rows = some page) : page.length = pageSize := by
  obtain ⟨cells, -, hlayout⟩ := Option.bind_eq_some_iff.mp h
  exact Page.length_layout? hlayout

theorem length_first {first : Bytes} {rows : List (Int64 × List Value)}
    (hsize : pageSize ∈ pageSizes) (h : tablePage? pageSize 1 rows = some first) :
    (front pageSize ++ first.drop 18).length = pageSize := by
  have hlength := length_tablePage? h
  have hbounds := mem_pageSizes_le hsize
  rw [List.length_append, length_front, List.length_drop]
  omega

theorem ofFile_of_layout? (hsize : pageSize ∈ pageSizes)
    (h : layout? pageSize entries pages = some file) : ofFile file = .ok ⟨file, pageSize⟩ := by
  obtain ⟨first, hfirst, rfl⟩ := exists_first_of_layout? h
  have hlength := length_tablePage? hfirst
  have hbounds := mem_pageSizes_le hsize
  have hheader : ((front pageSize ++ first.drop 18 ++ pages.flatten).take
      Page.fileHeaderSize) = front pageSize ++ (first.drop 18).take 82 := by
    rw [List.append_assoc, List.take_append, length_front, List.take_of_length_le,
      List.take_append_of_le_length]
    · rfl
    · rw [List.length_drop, Page.fileHeaderSize]
      omega
    · rw [length_front, Page.fileHeaderSize]
      omega
  have hwhole : ¬(front pageSize ++ (first.drop 18).take 82).length < Page.fileHeaderSize := by
    rw [List.length_append, length_front, List.length_take, List.length_drop, Page.fileHeaderSize]
    omega
  rw [ofFile, hheader, if_neg hwhole, statedPageSize_front hsize, if_pos hsize]

theorem page_eq_decode {window : Bytes} {number : UInt32} (hnumber : number ≠ 0)
    (hwindow : (file.drop ((number.toNat - 1) * pageSize)).take pageSize = window)
    (hlength : window.length = pageSize) :
    page ⟨file, pageSize⟩ number = Page.decode window number := by
  rw [page, Page.ofFile, if_neg hnumber]
  simp only [hwindow, if_pos hlength]

theorem exists_firstPage (hsize : pageSize ∈ pageSizes)
    (h : layout? pageSize entries pages = some file) :
    ∃ p, firstPage ⟨file, pageSize⟩ = .ok p ∧ p.schemaEntries = .ok entries := by
  obtain ⟨first, hfirst, rfl⟩ := exists_first_of_layout? h
  have hwindow := length_first hsize hfirst
  have hdrop : (front pageSize ++ first.drop 18).drop (Page.headerStart 1) =
      first.drop (Page.headerStart 1) := by
    rw [List.drop_append, length_front, List.drop_drop, List.drop_of_length_le]
    · rfl
    · rw [length_front]
      decide
  obtain ⟨p, cells, hdecode, hp, hcells⟩ := exists_page_of_tablePage? (mem_pageSizes_le hsize).2
    isStorable_of_mem_entryRows hfirst (hwindow.trans (length_tablePage? hfirst).symm) hdrop
  refine ⟨p, ?_, Page.schemaEntries_eq_ok hp.kind_eq hp.cells_eq hcells (forall₂_entryRows entries)⟩
  rw [← hdecode]
  refine page_eq_decode (by decide) ?_ hwindow
  rw [show ((1 : UInt32).toNat - 1) * pageSize = 0 from Nat.zero_mul pageSize, List.drop_zero,
    List.take_left' hwindow]

theorem exists_secondPage {root : Bytes} {rows : List (Int64 × List Value)}
    (hsize : pageSize ∈ pageSizes) (hrows : ∀ row ∈ rows, ∀ value ∈ row.2, value.IsStorable)
    (hroot : tablePage? pageSize 2 rows = some root)
    (h : layout? pageSize entries (root :: pages) = some file) :
    ∃ p cells, page ⟨file, pageSize⟩ 2 = .ok p ∧ p.kind = .tableLeaf ∧ p.cells = cells.map .ok ∧
      List.Forall₂ Cell.HoldsRow rows cells := by
  obtain ⟨first, hfirst, rfl⟩ := exists_first_of_layout? h
  obtain ⟨p, cells, hdecode, hp, hcells⟩ :=
    exists_page_of_tablePage? (mem_pageSizes_le hsize).2 hrows hroot rfl rfl
  refine ⟨p, cells, ?_, hp.kind_eq, hp.cells_eq, hcells⟩
  rw [← hdecode]
  refine page_eq_decode (by decide) ?_ (length_tablePage? hroot)
  rw [show ((2 : UInt32).toNat - 1) * pageSize = pageSize from Nat.one_mul pageSize,
    List.drop_left' (length_first hsize hfirst), List.flatten_cons,
    List.take_left' (length_tablePage? hroot)]

/-- A database that is written is read back: a query for columns of a table whose rows are on the
second page gives the text of each column in each row, in the order in which the rows were
written. -/
theorem answer_layout? (hsize : pageSize ∈ pageSizes) {name table sql : String}
    {columns : List Column} (hsql : Definition.columns sql = .ok columns)
    {before after : List SchemaEntry}
    (hothers : ∀ entry ∈ before ++ after, Text.sameName entry.table table = false)
    {rows : List (Int64 × List Value)} (hrows : ∀ row ∈ rows, ∀ value ∈ row.2, value.IsStorable)
    {root : Bytes} (hroot : tablePage? pageSize 2 rows = some root)
    (hfile : layout? pageSize (before ++ ⟨"table", name, table, 2, some sql⟩ :: after)
      (root :: pages) = some file)
    {names : List String} (hstar : names ≠ ["*"]) (hcount : names ≠ [Query.countAll])
    {shown : List Column}
    (hshown : names.mapM (Schema.column ⟨name, columns, 2, none⟩) = .ok shown) :
    ∃ db, ofFile file = .ok db ∧ db.answer ⟨table, names, none⟩ =
      .ok (.rows (rows.map fun row ↦ shown.map fun column ↦ column.textOf row.1 row.2)) := by
  refine ⟨⟨file, pageSize⟩, ofFile_of_layout? hsize hfile, ?_⟩
  obtain ⟨p, hp, hentries⟩ := exists_firstPage hsize hfile
  obtain ⟨q, cells, hq, hkind, hcells, hholds⟩ := exists_secondPage hsize hrows hroot hfile
  have hschema : schema ⟨file, pageSize⟩ table = .ok ⟨name, columns, 2, none⟩ := by
    rw [schema, hp, Except.ok_bind, Schema.ofPage, hentries, Except.ok_bind,
      Schema.ofEntries_eq_ok hothers hsql]
  have hcolumns : Query.shownColumns ⟨table, names, none⟩ ⟨name, columns, 2, none⟩ = .ok shown := by
    simp [Query.shownColumns, Query.countsRows, hstar, hcount, hshown]
  have hscan := Query.rows_of_holdsRow shown hholds
  rw [answer, hschema, Except.ok_bind, hq, Except.ok_bind,
    Query.answer_eq_rows hkind hcount hcolumns, hcells]
  simp only [Query.filter, Except.ok_bind, hscan, Except.pure_eq_ok]

def sampleSql : String :=
  "create table t (id integer primary key, name text)"

def sampleRows : List (Int64 × List Value) :=
  [(5, [.null, .text "é"]), (-1, [.integer 0, .integer 300])]

def sampleEntries : List SchemaEntry :=
  [⟨"view", "v", "v", 0, none⟩] ++ ⟨"table", "t", "t", 2, some sampleSql⟩ ::
    [⟨"table", "u", "u", 1, some "create"⟩]

theorem answer_layout?_sampleRows :
    ∃ root file db, tablePage? 512 2 sampleRows = some root ∧
      layout? 512 sampleEntries [root, [7]] = some file ∧ ofFile file = .ok db ∧
      db.answer ⟨"t", ["NAME", "id"], none⟩ = .ok (.rows [["é", "5"], ["300", "0"]]) := by
  have hroot : tablePage? 512 2 sampleRows = some ((tablePage? 512 2 sampleRows).getD []) := by
    decide +kernel
  have hfile : layout? 512 sampleEntries [(tablePage? 512 2 sampleRows).getD [], [7]] =
      some ((layout? 512 sampleEntries [(tablePage? 512 2 sampleRows).getD [], [7]]).getD []) := by
    decide +kernel
  have hsql : Definition.columns sampleSql =
      .ok [⟨"id", "integer primary key", 0, true⟩, ⟨"name", "text", 1, false⟩] := by
    decide +kernel
  have hrows : ∀ row ∈ sampleRows, ∀ value ∈ row.2, value.IsStorable := by
    simp [sampleRows, Value.IsStorable]
  have hshown : ["NAME", "id"].mapM (Schema.column ⟨"t", [⟨"id", "integer primary key", 0, true⟩,
      ⟨"name", "text", 1, false⟩], 2, none⟩) =
        .ok [⟨"name", "text", 1, false⟩, ⟨"id", "integer primary key", 0, true⟩] := rfl
  obtain ⟨db, hdb, hanswer⟩ := answer_layout? (by decide) hsql (by decide +kernel) hrows hroot hfile
    (by decide) (by decide) hshown
  exact ⟨_, _, db, hroot, hfile, hdb, hanswer.trans (by decide +kernel)⟩

end TableFile.Database
