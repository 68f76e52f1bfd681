import TableFile.Proofs.Bytes.Window
import TableFile.Proofs.Database.Layout

namespace TableFile.Database

/-- The bytes of the file that are a page, or those of them that there are. -/
def pageBytes (db : Database) (number : UInt32) : Bytes :=
  db.file.window ((number.toNat - 1) * db.pageSize) db.pageSize

theorem pageBytes_one (db : Database) : db.pageBytes 1 = db.file.take db.pageSize := by
  rw [pageBytes, Bytes.window, show ((1 : UInt32).toNat - 1) * db.pageSize = 0 from Nat.zero_mul _,
    List.drop_zero]

theorem file_of_ofFile {file : Bytes} {db : Database} (h : ofFile file = .ok db) :
    db.file = file ∧ db.pageSize ∈ pageSizes := by
  simp only [ofFile] at h
  split at h
  · cases h
  · split at h
    · next hsize =>
      obtain rfl := Except.ok.inj h
      exact ⟨rfl, hsize⟩
    · cases h

theorem ofFile_congr {file file' : Bytes} {db : Database} (h : ofFile file = .ok db)
    (hfirst : file'.take db.pageSize = file.take db.pageSize) :
    ofFile file' = .ok ⟨file', db.pageSize⟩ := by
  have hsize := (mem_pageSizes_le (file_of_ofFile h).2).1
  have hheader : file'.take Page.fileHeaderSize = file.take Page.fileHeaderSize :=
    Bytes.take_congr hfirst (show 100 ≤ db.pageSize by omega)
  simp only [ofFile] at h ⊢
  rw [hheader]
  split at h
  · cases h
  · next hlong =>
    split at h
    · next hmem =>
      obtain rfl := Except.ok.inj h
      rw [if_neg hlong, if_pos hmem]
    · cases h

variable {db db' : Database}

theorem page_congr {number : UInt32} (hsize : db'.pageSize = db.pageSize)
    (h : db'.pageBytes number = db.pageBytes number) : db'.page number = db.page number := by
  simp only [pageBytes, Bytes.window, hsize] at h
  simp only [page, Page.ofFile, hsize, h]

theorem schema_congr (hsize : db'.pageSize = db.pageSize)
    (hfirst : db'.pageBytes 1 = db.pageBytes 1) (table : String) :
    db'.schema table = db.schema table := by
  rw [schema, schema, firstPage, firstPage, page_congr hsize hfirst]

theorem answerText_of_parse_error {sql : String} {e : Error} (h : Query.parse sql = .error e)
    (db : Database) : db.answerText sql = .error e := by
  rw [answerText, h, Except.error_bind]

theorem answerText_of_schema_error {sql : String} {query : Query} {e : Error}
    (hquery : Query.parse sql = .ok query) (h : db.schema query.table = .error e) :
    db.answerText sql = .error e := by
  rw [answerText, hquery, Except.ok_bind, answer, h, Except.error_bind]

theorem answerText_of_schema {sql : String} {query : Query} {schema : Schema}
    (hquery : Query.parse sql = .ok query) (h : db.schema query.table = .ok schema) :
    db.answerText sql = db.page schema.rootPage >>= query.answer schema := by
  rw [answerText, hquery, Except.ok_bind, answer, h, Except.ok_bind]

/-- Two files that begin with the same page are read alike: both are accepted with one page size,
and a table means the same in both. A query that cannot be read or whose table cannot be found
fails alike, and one whose table is on the same page in both is answered alike, whatever else the
files hold and however long they are. -/
theorem answerText_of_pages {file file' : Bytes} (h : ofFile file = .ok db)
    (hfirst : file'.take db.pageSize = file.take db.pageSize) :
    ∃ db', ofFile file' = .ok db' ∧ db'.pageSize = db.pageSize ∧ ∀ sql,
      (∀ e, Query.parse sql = .error e →
        db.answerText sql = .error e ∧ db'.answerText sql = .error e) ∧
      ∀ query, Query.parse sql = .ok query →
        (∀ e, db.schema query.table = .error e →
          db.answerText sql = .error e ∧ db'.answerText sql = .error e) ∧
        ∀ schema, db.schema query.table = .ok schema →
          db'.pageBytes schema.rootPage = db.pageBytes schema.rootPage →
          db'.schema query.table = .ok schema ∧ db'.answerText sql = db.answerText sql := by
  have hfile := (file_of_ofFile h).1
  let db' : Database := ⟨file', db.pageSize⟩
  have hsize : db'.pageSize = db.pageSize := rfl
  have hpage : db'.pageBytes 1 = db.pageBytes 1 := by
    rw [pageBytes_one, pageBytes_one, hfile]
    exact hfirst
  have hschema (table : String) : db'.schema table = db.schema table :=
    schema_congr hsize hpage table
  refine ⟨db', ofFile_congr h hfirst, hsize, fun sql ↦ ⟨fun e he ↦ ?_, fun query hquery ↦ ?_⟩⟩
  · exact ⟨answerText_of_parse_error he db, answerText_of_parse_error he db'⟩
  · refine ⟨fun e he ↦ ?_, fun schema hs hroot ↦ ?_⟩
    · exact ⟨answerText_of_schema_error hquery he,
        answerText_of_schema_error hquery ((hschema _).trans he)⟩
    · have hs' : db'.schema query.table = .ok schema := (hschema _).trans hs
      refine ⟨hs', ?_⟩
      rw [answerText_of_schema hquery hs', answerText_of_schema hquery hs, page_congr hsize hroot]

def sampleFile (rest : Bytes) : Bytes :=
  ((tablePage? 512 2 sampleRows).bind fun root ↦ layout? 512 sampleEntries [root, rest]).getD []

theorem answerText_of_pages_sampleFile :
    ofFile (sampleFile [7]) = .ok ⟨sampleFile [7], 512⟩ ∧
    (sampleFile [8, 9]).take 512 = (sampleFile [7]).take 512 ∧
    ∃ db', ofFile (sampleFile [8, 9]) = .ok db' ∧
      db'.answerText "select name from t" = .ok (.rows [["é"], ["300"]]) := by
  have hfile : ofFile (sampleFile [7]) = .ok ⟨sampleFile [7], 512⟩ := by decide +kernel
  have hfirst : (sampleFile [8, 9]).take 512 = (sampleFile [7]).take 512 := by decide +kernel
  have hquery : Query.parse "select name from t" = .ok ⟨"t", ["name"], none⟩ := by decide +kernel
  have hschema : schema ⟨sampleFile [7], 512⟩ "t" =
      .ok ⟨"t", [⟨"id", "integer primary key", 0, true⟩, ⟨"name", "text", 1, false⟩], 2, none⟩ := by
    decide +kernel
  have hroot : pageBytes ⟨sampleFile [8, 9], 512⟩ 2 = pageBytes ⟨sampleFile [7], 512⟩ 2 := by
    decide +kernel
  have hanswer : answerText ⟨sampleFile [7], 512⟩ "select name from t" =
      .ok (.rows [["é"], ["300"]]) := by decide +kernel
  obtain ⟨⟨file', pageSize⟩, hdb', hsize, hsql⟩ := answerText_of_pages hfile hfirst
  obtain rfl : file' = sampleFile [8, 9] := (file_of_ofFile hdb').1
  obtain rfl : pageSize = 512 := hsize
  obtain ⟨-, heq⟩ := ((hsql _).2 _ hquery).2 _ hschema hroot
  exact ⟨hfile, hfirst, _, hdb', heq.trans hanswer⟩

end TableFile.Database
