import TableFile.Console.Command
import TableFile.Proofs.Database.Reach

namespace TableFile.Console

open Text

theorem lines_nil : lines [] = "" :=
  rfl

theorem lines_cons (text : String) (texts : List String) :
    lines (text :: texts) = text ++ "\n" ++ lines texts := by
  rw [lines, List.map_cons, String.join_cons, lines]

theorem lines_append (texts texts' : List String) :
    lines (texts ++ texts') = lines texts ++ lines texts' := by
  rw [lines, List.map_append, String.join_append, lines, lines]

theorem lines_singleton (text : String) : lines [text] = text ++ "\n" := by
  rw [lines_cons, lines_nil, String.append_empty]

theorem lines_answerLines (answer : Answer) :
    lines (answerLines answer) = match answer with
      | .count n => n.repr ++ "\n"
      | .rows rows => String.join (rows.map fun row ↦ "|".intercalate row ++ "\n") := by
  cases answer with
  | count n => exact lines_singleton n.repr
  | rows rows => rw [answerLines, lines, List.map_map]; rfl

def Outcome.result (outcome : Outcome) : Except Failure Unit :=
  match outcome.failure with
  | none => .ok ()
  | some failure => .error failure

/-- Steps that print and that may fail. What they have printed stays when one of them fails. -/
abbrev Session := ExceptT Failure (StateM String)

namespace Session

variable {α β : Type}

def printLine (text : String) : Session Unit :=
  modify (· ++ (text ++ "\n"))

def attempt (fail : Error → Failure) : Except Error α → Session α
  | .ok a => pure a
  | .error e => throw (fail e)

def info (db : Database) : Session Unit := do
  printLine s!"database page size: {db.pageSize}"
  let count ← attempt .listing db.entryCount
  printLine s!"number of tables: {count}"

def tables (db : Database) : Session Unit := do
  let names ← attempt .listing db.tables
  printLine (" ".intercalate names)

def printEntry (entry : SchemaEntry) : Session Unit := do
  printLine s!"{entry.kind}: {entry.name} (table: {entry.table}, page: {entry.rootPage.toNat})"
  entry.sql.forM fun sql ↦ printLine s!"  SQL: {sql}"

def schema (db : Database) : Session Unit := do
  let entries ← attempt .listing db.entries
  entries.forM printEntry

def printAnswer : Answer → Session Unit
  | .count n => printLine n.repr
  | .rows rows => rows.forM fun row ↦ printLine ("|".intercalate row)

def query (db : Database) (sql : String) : Session Unit := do
  let answer ← attempt (.querying sql) (db.answerText sql)
  printAnswer answer

def answer (db : Database) (command : List Char) : Session Unit :=
  let text := String.ofList command
  if text = ".dbinfo" then info db
  else if text = ".tables" then tables db
  else if text = ".schema" then schema db
  else if command.head? = some '.' then throw (.unknownCommand text)
  else if (words command).head?.any (sameLetters · "select".toList) then query db text
  else throw (.notSelect text)

def run (path : String) (file : Except FileFault Bytes) (command : String) : Session Unit := do
  let db ← attempt (.opening path) ((file.mapError Error.file).bind Database.ofFile)
  answer db (trim command.toList)

def Prints (x : Session α) (result : Except Failure α) (text : String) : Prop :=
  ∀ out, ExceptT.run x out = (result, out ++ text)

def Follows (x : Session Unit) (outcome : Outcome) : Prop :=
  Prints x outcome.result outcome.output

section Steps

variable {x : Session α} {f : α → Session β} {a : α} {failure : Failure} {s t : String}
  {result : Except Failure β}

theorem prints_pure (a : α) : Prints (pure a) (.ok a) "" := by
  intro out
  rw [String.append_empty]
  rfl

theorem prints_throw (failure : Failure) :
    Prints (throw failure : Session α) (.error failure) "" := by
  intro out
  rw [String.append_empty]
  rfl

theorem prints_printLine (text : String) : Prints (printLine text) (.ok ()) (text ++ "\n") :=
  fun _ ↦ rfl

theorem Prints.bind (h : Prints x (.ok a) s) (hf : Prints (f a) result t) :
    Prints (x >>= f) result (s ++ t) := by
  intro out
  have hnext : ExceptT.run (f a) (out ++ s) = (result, out ++ (s ++ t)) := by
    rw [hf, String.append_assoc]
  rw [← hnext]
  change ExceptT.bindCont f (ExceptT.run x out).1 (ExceptT.run x out).2 = _
  rw [h]
  rfl

theorem Prints.bind_error (h : Prints x (.error failure) s) :
    Prints (x >>= f) (.error failure) s := by
  intro out
  change ExceptT.bindCont f (ExceptT.run x out).1 (ExceptT.run x out).2 = _
  rw [h]
  rfl

theorem prints_attempt_ok {fail : Error → Failure} {a : α} (hf : Prints (f a) result t) :
    Prints (attempt fail (.ok a) >>= f) result t := by
  have h := (prints_pure a).bind hf
  rw [String.empty_append] at h
  exact h

theorem prints_attempt_error {fail : Error → Failure} (e : Error) :
    Prints (attempt fail (.error e) >>= f) (.error (fail e)) "" :=
  (prints_throw (fail e)).bind_error

theorem prints_forM {f : α → Session Unit} {texts : α → List String}
    (hf : ∀ a, Prints (f a) (.ok ()) (lines (texts a))) (as : List α) :
    Prints (as.forM f) (.ok ()) (lines (as.flatMap texts)) := by
  induction as with
  | nil => exact prints_pure ()
  | cons a as ih =>
    rw [List.flatMap_cons, lines_append]
    exact (hf a).bind ih

theorem prints_option_forM {f : α → Session Unit} {text : α → String}
    (hf : ∀ a, Prints (f a) (.ok ()) (text a ++ "\n")) (a? : Option α) :
    Prints (a?.forM f) (.ok ()) (lines (a?.map text).toList) := by
  cases a? with
  | none => exact prints_pure ()
  | some a =>
    rw [Option.map_some, Option.toList_some, lines_singleton]
    exact hf a

end Steps

section Commands

/-- What can fail comes first, and nothing is printed when it does. -/
theorem follows_outcome {α : Type} {f : α → Session Unit} {texts : α → List String}
    (hf : ∀ a, Prints (f a) (.ok ()) (lines (texts a))) (fail : Error → Failure)
    (x : Except Error α) : Follows (attempt fail x >>= f) (outcome fail (x.map texts)) := by
  cases x with
  | error e => exact prints_attempt_error e
  | ok a => exact prints_attempt_ok (hf a)

theorem prints_printEntry (entry : SchemaEntry) :
    Prints (printEntry entry) (.ok ()) (lines (entryLines entry)) := by
  rw [entryLines, lines_cons]
  exact (prints_printLine _).bind (prints_option_forM (fun _ ↦ prints_printLine _) entry.sql)

theorem prints_printAnswer (answer : Answer) :
    Prints (printAnswer answer) (.ok ()) (lines (answerLines answer)) := by
  cases answer with
  | count n =>
    rw [answerLines, lines_singleton]
    exact prints_printLine n.repr
  | rows rows =>
    rw [answerLines, List.map_eq_flatMap]
    apply prints_forM
    intro row
    rw [lines_singleton]
    exact prints_printLine _

variable (db : Database)

/-- The page size is printed even when the count behind it cannot be had. -/
theorem follows_info : Follows (info db) (Console.info db) := by
  have hsize := prints_printLine s!"database page size: {db.pageSize}"
  rw [info, Console.info]
  cases db.entryCount with
  | error e =>
    dsimp only
    rw [Follows, lines_cons]
    exact hsize.bind (prints_attempt_error e)
  | ok count =>
    dsimp only
    rw [Follows, lines_cons, lines_singleton]
    exact hsize.bind (prints_attempt_ok (prints_printLine s!"number of tables: {count}"))

theorem follows_tables : Follows (tables db) (Console.tables db) := by
  apply follows_outcome
  intro names
  rw [lines_singleton]
  exact prints_printLine _

theorem follows_schema : Follows (schema db) (Console.schema db) :=
  follows_outcome (prints_forM prints_printEntry) .listing db.entries

theorem follows_query (sql : String) : Follows (query db sql) (Console.query db sql) :=
  follows_outcome prints_printAnswer (.querying sql) (db.answerText sql)

theorem follows_answer (command : List Char) :
    Follows (answer db command) (Console.answer db command) := by
  simp only [answer, Console.answer]
  split
  · exact follows_info db
  · split
    · exact follows_tables db
    · split
      · exact follows_schema db
      · split
        · exact prints_throw _
        · split
          · exact follows_query db _
          · exact prints_throw _

theorem follows_run (path : String) (file : Except FileFault Bytes) (command : String) :
    Follows (run path file command) (Console.run path file command) := by
  rw [run, Console.run]
  cases (file.mapError Error.file).bind Database.ofFile with
  | error e => exact prints_attempt_error e
  | ok db => exact prints_attempt_ok (follows_answer db (trim command.toList))

end Commands

end Session

section Failures

variable {db : Database} {failure : Failure}

def Outcome.Silent (outcome : Outcome) : Prop :=
  ∀ failure, outcome.failure = some failure → outcome.output = ""

theorem silent_of_output_eq {outcome : Outcome} (h : outcome.output = "") : outcome.Silent :=
  fun _ _ ↦ h

theorem silent_outcome (fail : Error → Failure) (x : Except Error (List String)) :
    (outcome fail x).Silent := by
  intro failure h
  cases x with
  | error e => rfl
  | ok texts => cases h

theorem silent_answer {command : List Char} (hinfo : String.ofList command ≠ ".dbinfo") :
    (answer db command).Silent := by
  simp only [answer]
  rw [if_neg hinfo]
  split
  · exact silent_outcome _ _
  · split
    · exact silent_outcome _ _
    · split
      · exact silent_of_output_eq rfl
      · split
        · exact silent_outcome _ _
        · exact silent_of_output_eq rfl

theorem exists_of_info_failure (h : (info db).failure = some failure) :
    ∃ e, db.firstPage = .error e ∧ failure = .listing e ∧
      (info db).output = s!"database page size: {db.pageSize}\n" := by
  cases hpage : db.firstPage with
  | error e =>
    have hcount : db.entryCount = .error e := by rw [Database.entryCount, hpage, Except.error_bind]
    simp only [info, hcount] at h ⊢
    have hfailure : failure = .listing e := (Option.some.inj h).symm
    exact ⟨e, rfl, hfailure, lines_singleton _⟩
  | ok page =>
    have hcount : db.entryCount = .ok page.header.cellCount.toNat := by
      rw [Database.entryCount, hpage, Except.ok_bind]
      rfl
    simp only [info, hcount] at h
    cases h

theorem output_of_answer_failure {command : List Char}
    (h : (answer db command).failure = some failure) :
    (answer db command).output = "" ∨
    String.ofList command = ".dbinfo" ∧ ∃ e, db.firstPage = .error e ∧ failure = .listing e ∧
      (answer db command).output = s!"database page size: {db.pageSize}\n" := by
  by_cases hinfo : String.ofList command = ".dbinfo"
  · have hanswer : answer db command = info db := by
      simp only [answer]
      rw [if_pos hinfo]
    rw [hanswer] at h ⊢
    exact .inr ⟨hinfo, exists_of_info_failure h⟩
  · exact .inl (silent_answer hinfo failure h)

theorem output_of_no_dot {command : List Char} (hdot : command.head? ≠ some '.')
    (h : (answer db command).failure = none) :
    ∃ a, db.answerText (.ofList command) = .ok a ∧
      (answer db command).output = lines (answerLines a) := by
  have hne (name : List Char) : String.ofList command ≠ .ofList ('.' :: name) := by
    intro heq
    apply hdot
    rw [String.ofList_inj.mp heq, List.head?_cons]
  simp only [answer] at h ⊢
  rw [if_neg (hne _), if_neg (hne _), if_neg (hne _), if_neg hdot] at h ⊢
  split at h
  · next hselect =>
    rw [if_pos hselect]
    simp only [query] at h ⊢
    cases hanswer : db.answerText (.ofList command) with
    | error e =>
      rw [hanswer] at h
      cases h
    | ok a => exact ⟨a, rfl, rfl⟩
  · cases h

theorem run_cases (path : String) (file : Except FileFault Bytes) (command : String) :
    (∃ e, run path file command = ⟨"", some (.opening path e)⟩) ∨
    ∃ bytes db, file = .ok bytes ∧ Database.ofFile bytes = .ok db ∧
      run path file command = answer db (trim command.toList) := by
  cases file with
  | error fault => exact .inl ⟨_, rfl⟩
  | ok bytes =>
    cases hdb : Database.ofFile bytes with
    | error e =>
      left
      refine ⟨e, ?_⟩
      simp only [run, Except.mapError, Except.bind, hdb]
    | ok db =>
      right
      refine ⟨bytes, db, rfl, hdb, ?_⟩
      simp only [run, Except.mapError, Except.bind, hdb]

end Failures

/-- A command carried out step by step does as its outcome says. If it fails, it has printed
nothing, but for the page size of a file whose first page cannot be read. A query that succeeds has
printed its answer, one line for each row in their order. -/
theorem run_printed (path : String) (file : Except FileFault Bytes) (command : String) :
    Session.Follows (Session.run path file command) (run path file command) ∧
    (∀ failure, (run path file command).failure = some failure →
      (run path file command).output = "" ∨
      String.ofList (trim command.toList) = ".dbinfo" ∧
        ∃ bytes db e, file = .ok bytes ∧ Database.ofFile bytes = .ok db ∧
          db.firstPage = .error e ∧ failure = .listing e ∧
          (run path file command).output = s!"database page size: {db.pageSize}\n") ∧
    ((trim command.toList).head? ≠ some '.' → (run path file command).failure = none →
      ∃ bytes db answer, file = .ok bytes ∧ Database.ofFile bytes = .ok db ∧
        db.answerText (.ofList (trim command.toList)) = .ok answer ∧
        (run path file command).output =
          match answer with
          | .count n => n.repr ++ "\n"
          | .rows rows => String.join (rows.map fun row ↦ "|".intercalate row ++ "\n")) := by
  refine ⟨Session.follows_run path file command, ?_, ?_⟩
  · intro failure hfailure
    obtain ⟨e, hrun⟩ | ⟨bytes, db, hfile, hdb, hrun⟩ := run_cases path file command
    · left
      rw [hrun]
    · rw [hrun] at hfailure ⊢
      apply (output_of_answer_failure hfailure).imp_right
      intro ⟨hinfo, e, hpage, hlisting, houtput⟩
      exact ⟨hinfo, bytes, db, e, hfile, hdb, hpage, hlisting, houtput⟩
  · intro hdot hsuccess
    obtain ⟨e, hrun⟩ | ⟨bytes, db, hfile, hdb, hrun⟩ := run_cases path file command
    · rw [hrun] at hsuccess
      cases hsuccess
    · rw [hrun] at hsuccess ⊢
      obtain ⟨a, hanswer, houtput⟩ := output_of_no_dot hdot hsuccess
      refine ⟨bytes, db, a, hfile, hdb, hanswer, ?_⟩
      rw [houtput, lines_answerLines]

/-- The same file whole, and with nothing left of it but its header. -/
theorem run_printed_sampleFile :
    (let file := Database.sampleFile [7]
    let listing := run "t.db" (.ok (file.take 100)) ".tables"
    let selection := run "t.db" (.ok file) "select name from t "
    listing.failure = some (.listing (.cutShort 1 512 100)) ∧ listing.output = "" ∧
      selection.failure = none ∧ selection.output = "é\n300\n") ∧
    run "t.db" (.ok ((Database.sampleFile [7]).take 100)) ".dbinfo" =
      ⟨"database page size: 512\n", some (.listing (.cutShort 1 512 100))⟩ := by
  have hlisting : (run "t.db" (.ok ((Database.sampleFile [7]).take 100)) ".tables").failure =
      some (.listing (.cutShort 1 512 100)) := by decide +kernel
  have hcommand : String.ofList (trim ".tables".toList) ≠ ".dbinfo" := by decide
  have hselection : (run "t.db" (.ok (Database.sampleFile [7])) "select name from t ").failure =
      none := by decide +kernel
  have hdot : (trim "select name from t ".toList).head? ≠ some '.' := by decide
  have hdb : Database.ofFile (Database.sampleFile [7]) = .ok ⟨Database.sampleFile [7], 512⟩ := by
    decide +kernel
  have hanswer : Database.answerText ⟨Database.sampleFile [7], 512⟩
      (.ofList (trim "select name from t ".toList)) = .ok (.rows [["é"], ["300"]]) := by
    decide +kernel
  obtain ⟨-, hfail, -⟩ := run_printed "t.db" (.ok ((Database.sampleFile [7]).take 100)) ".tables"
  obtain ⟨-, -, hquery⟩ := run_printed "t.db" (.ok (Database.sampleFile [7])) "select name from t "
  refine ⟨⟨hlisting, ?_, hselection, ?_⟩, by decide +kernel⟩
  · obtain hempty | ⟨hinfo, -⟩ := hfail _ hlisting
    · exact hempty
    · exact absurd hinfo hcommand
  · obtain ⟨file, db, answer, hfile, hdb', hanswer', houtput⟩ := hquery hdot hselection
    obtain rfl := Except.ok.inj hfile
    obtain rfl := Except.ok.inj (hdb.symm.trans hdb')
    obtain rfl := Except.ok.inj (hanswer.symm.trans hanswer')
    exact houtput

end TableFile.Console
