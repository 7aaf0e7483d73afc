import HiPerConTracer.Importer.NoDataLoss

/-!
# Rolling back with each backend (`databaseclient-{mariadb,postgresql,mongodb}.cc`)

`importFiles` over the database clients.  The SQL clients execute a statement in a transaction.  The
MongoDB client has no transactions: it inserts the rows in their order until one is rejected, and
`rollback` does nothing.

    importFiles fails → (nothing is stored ↔ MongoDB → the first row is rejected, or none is)
    … and the retry is right ↔ the same for the list and for each file in the retry
                                                                        (rollback_traceless_iff)
    not MongoDB → importFiles is the one of a transactional database    (importFiles_transactional)
-/

namespace HiPerConTracer.Importer.DatabaseClient

inductive DatabaseBackendType where
  | sqlMariaDB
  | sqlPostgreSQL
  | noSQLMongoDB
deriving DecidableEq, Repr

/-- The rows of a statement up to the first one that the database rejects, and whether there is none
rejected.  `rejects present row` is the answer of the database when it holds the rows `present`. -/
def insertRows {Row : Type} (rejects : List Row → Row → Bool) (present : List Row) :
    List Row → List Row × Bool
  | [] => ([], true)
  | r :: rs =>
    if rejects present r then ([], false)
    else (r :: (insertRows rejects (present ++ [r]) rs).1, (insertRows rejects (present ++ [r]) rs).2)

section
variable {File Entry Row : Type} (backend : DatabaseBackendType)
  (rejects : List Row → Row → Bool)

/-! ## The clients -/

def startTransaction (s : State File Entry Row) : State File Entry Row :=
  match backend with
  | .sqlMariaDB | .sqlPostgreSQL => { s with transaction := some [] }
  | .noSQLMongoDB => s

/-- `executeUpdate` with the statement of the reader. -/
def executeUpdate (s : State File Entry Row) : State File Entry Row × Option ResultsException :=
  match backend with
  | .sqlMariaDB | .sqlPostgreSQL =>
    match insertRows rejects (s.database ++ s.transaction.getD []) s.statement with
    | (_, true) =>
      ({ s with statement := [], transaction := s.transaction.map (· ++ s.statement) }, none)
    | (_, false) => (s, some .databaseDataError)
  | .noSQLMongoDB =>
    match insertRows rejects s.database s.statement with
    | (inserted, true) => ({ s with statement := [], database := s.database ++ inserted }, none)
    | (inserted, false) =>
      ({ s with database := s.database ++ inserted }, some .databaseDataError)

/-- `endTransaction`, and what the worker does it for. -/
def endTransaction (s : State File Entry Row) (commit : Bool) : State File Entry Row :=
  let s := s.log (if commit then .committed else .rolledBack)
  match backend with
  | .sqlMariaDB | .sqlPostgreSQL =>
    if commit then
      { s with database := s.database ++ s.transaction.getD [], transaction := none }
    else { s with transaction := none }
  | .noSQLMongoDB => s

/-- `reconnect`: MongoDB reconnects by itself. -/
def reconnect (s : State File Entry Row) : State File Entry Row :=
  match backend with
  | .sqlMariaDB | .sqlPostgreSQL => { s with transaction := none }
  | .noSQLMongoDB => s

/-! ## Importing a list of files -/

variable (env : Environment File Row)

/-- `startTransaction` and `beginParsing`. -/
def begin (s : State File Entry Row) : State File Entry Row :=
  { startTransaction backend s with statement := [], rows := 0 }

/-- `finishParsing`, then commit or rollback. -/
def finish (s : State File Entry Row) : State File Entry Row × Option ResultsException :=
  if s.rows > 0 then
    match executeUpdate backend rejects s with
    | (s, some e) => (s, some e)
    | (s, none) => (endTransaction backend s true, none)
  else (endTransaction backend s false, none)

def importAttempt (s : State File Entry Row) (dataFileList : List File) :
    State File Entry Row × Option File × Option ResultsException :=
  match parseFiles env (begin backend s).tick none dataFileList with
  | (s, dataFile, some e) => (s, dataFile, some e)
  | (s, dataFile, none) =>
    ((finish backend rejects s).1, dataFile, (finish backend rejects s).2)

variable [DecidableEq File] [LinearOrder Entry] (ops : FileEntry File Entry) (cfg : Configuration)

/-- The handlers that roll back. -/
def rollbackHandler (s : State File Entry Row) (bad : Bool) (dataFile : Option File) :
    State File Entry Row × Bool :=
  let s := endTransaction backend s false
  (if bad then finishedFile env ops cfg s dataFile false else s, false)

def importFiles (s : State File Entry Row) (dataFileList : List File) :
    State File Entry Row × Bool :=
  let fastMode := dataFileList.length > 1
  match importAttempt backend rejects env (s.log .importFiles) dataFileList with
  | (s, _, none) => (finishFiles env ops cfg s dataFileList, true)
  | (s, dataFile, some .readerDataError) =>
    rollbackHandler backend env ops cfg s (¬ fastMode ∧ dataFile.isSome) dataFile
  | (s, dataFile, some .databaseDataError) =>
    rollbackHandler backend env ops cfg s (¬ fastMode) dataFile
  | (s, _, some .database) => ((reconnect backend s).tick, false)
  | (s, dataFile, some .other) => rollbackHandler backend env ops cfg s (¬ fastMode) dataFile

/-- The one-by-one retry of `Worker::run`. -/
def slowMode (s : State File Entry Row) : List File → State File Entry Row
  | [] => s
  | f :: fs =>
    if env.stopRequested s.clock then s
    else slowMode (importFiles backend rejects env ops cfg s.tick [f]).1 fs

/-! ## What a failed list leaves -/

omit [DecidableEq File] [LinearOrder Entry] in
theorem insertRows_all {present rows : List Row}
    (h : (insertRows rejects present rows).2 = true) :
    (insertRows rejects present rows).1 = rows := by
  induction rows generalizing present with
  | nil => rfl
  | cons r rs ih =>
    unfold insertRows at h ⊢
    split at h
    · cases h
    · next hr =>
      rw [if_neg hr]
      show r :: _ = r :: rs
      rw [ih h]

/-- The files that have been finished as good or bad. -/
def verdicts (trace : List (Action File)) : List (File × Bool) :=
  (trace.filterMap fun a =>
    match a with
    | .finished (some f) success => some (f, success)
    | _ => none).reverse

/-- The database takes all rows of the statement, or rejects the first one. -/
def Whole (present rows : List Row) : Prop :=
  (insertRows rejects present rows).2 = false → (insertRows rejects present rows).1 = []

/-- Nothing of a list remains that is rejected: it cannot be read, or its rows are whole. -/
def Traceless (present : List Row) (t : Nat) (files : List File) : Prop :=
  ¬ readingFails env t files → Whole rejects present (rowsRead env t files)

/-! ## Importing the files one by one -/

section
variable (rows : File → List Row) (exception : File → Option ResultsException)

/-- The file can be read, and the database takes its rows. -/
def good (present : List Row) (f : File) : Bool :=
  (exception f).isNone && (insertRows rejects present (rows f)).2

/-- The rows of a good file are stored, those of a bad one are not. -/
def stored (present : List Row) (f : File) : List Row :=
  if good rejects rows exception present f then present ++ rows f else present

/-- The database after the files, one by one. -/
def storedOneByOne (present : List Row) : List File → List Row
  | [] => present
  | f :: fs => storedOneByOne (stored rejects rows exception present f) fs

/-- Which of the files are good at their turn. -/
def verdictsOneByOne (present : List Row) : List File → List (File × Bool)
  | [] => []
  | f :: fs => (f, good rejects rows exception present f) ::
      verdictsOneByOne (stored rejects rows exception present f) fs

/-- Every file that can be read is whole at its turn. -/
def WholeOneByOne (present : List Row) : List File → Prop
  | [] => True
  | f :: fs => (exception f = none → Whole rejects present (rows f)) ∧
      WholeOneByOne (stored rejects rows exception present f) fs

/-- No stop request comes, and what a file has in it does not change.  Parsing does not report lost
connections. -/
structure Steady : Prop where
  stopAt : env.stopAt = none
  fileRows : ∀ t f, fileRows env t f = rows f
  fileException : ∀ t f, fileException env t f = exception f
  parseError : ∀ f, exception f ≠ some .database

end

/-- What remains of the rows of a rejected statement. -/
def remaining (present rows : List Row) : List Row :=
  match backend with
  | .sqlMariaDB | .sqlPostgreSQL => []
  | .noSQLMongoDB => (insertRows rejects present rows).1

/-! ## Verdicts -/

omit [DecidableEq File] [LinearOrder Entry] in
theorem verdicts_append (new trace : List (Action File)) :
    verdicts (new ++ trace) = verdicts trace ++ verdicts new := by
  unfold verdicts
  rw [List.filterMap_append, List.reverse_append]

omit [DecidableEq File] [LinearOrder Entry] in
theorem verdicts_eq_nil {new : List (Action File)}
    (h : ∀ f success, .finished (some f) success ∉ new) : verdicts new = [] := by
  unfold verdicts
  rw [List.reverse_eq_nil_iff, List.filterMap_eq_nil_iff]
  intro a ha
  split
  · next f success => exact absurd ha (h f success)
  · rfl

omit [DecidableEq File] [LinearOrder Entry] in
theorem verdicts_onlyRead {s s' : State File Entry Row} (h : s.OnlyRead s') :
    verdicts s'.trace = verdicts s.trace := by
  obtain ⟨new, hn, ht⟩ := h.trace
  rw [ht, verdicts_append, verdicts_eq_nil (fun f success hin => hn _ hin), List.append_nil]

theorem finishedFile_verdicts (s : State File Entry Row) (f : File) (success : Bool) :
    verdicts (finishedFile env ops cfg s (some f) success).trace =
      verdicts s.trace ++ [(f, success)] := by
  obtain ⟨new, hn, ht⟩ := (finishedFile_finished env ops cfg s f success).trace
  have hnew : verdicts new = [] := verdicts_eq_nil fun g b hin => by cases hn _ hin
  rw [ht, verdicts_append, hnew, List.append_nil]
  show (List.reverse ((f, success) :: _)) = _
  rw [List.reverse_cons]
  rfl

theorem finishFiles_spec (s : State File Entry Row) (files : List File) :
    (finishFiles env ops cfg s files).database = s.database ∧
      verdicts (finishFiles env ops cfg s files).trace =
        verdicts s.trace ++ files.map fun f => (f, true) := by
  induction files generalizing s with
  | nil => exact ⟨rfl, (List.append_nil _).symm⟩
  | cons f fs ih =>
    obtain ⟨hd, hv⟩ := ih (finishedFile env ops cfg s (some f) true)
    have hfin := finishedFile_finished env ops cfg s f true
    refine ⟨hd.trans hfin.database, hv.trans ?_⟩
    rw [finishedFile_verdicts, List.append_assoc]
    rfl

/-! ## One call -/

omit [DecidableEq File] [LinearOrder Entry] in
/-- At the start of an attempt only the transaction and the statement change. -/
theorem begin_onlyRead (s : State File Entry Row) : s.OnlyRead (begin backend s).tick := by
  unfold begin startTransaction
  cases backend <;> exact State.OnlyRead.refl_trace rfl rfl rfl rfl

omit [DecidableEq File] [LinearOrder Entry] in
theorem begin_clock (s : State File Entry Row) : (begin backend s).tick.clock = s.clock + 1 := by
  cases backend <;> rfl

omit [DecidableEq File] [LinearOrder Entry] in
theorem begin_transaction (s : State File Entry Row) (h : backend ≠ .noSQLMongoDB) :
    (begin backend s).transaction = some [] := by
  cases backend with
  | noSQLMongoDB => exact absurd rfl h
  | sqlMariaDB | sqlPostgreSQL => rfl

omit [DecidableEq File] [LinearOrder Entry] in
theorem endTransaction_verdicts (s : State File Entry Row) (commit : Bool) :
    verdicts (endTransaction backend s commit).trace = verdicts s.trace := by
  cases commit with
  | true =>
    have hnone := (verdicts_append [.committed] s.trace).trans (List.append_nil _)
    cases backend <;> exact hnone
  | false =>
    have hnone := (verdicts_append [.rolledBack] s.trace).trans (List.append_nil _)
    cases backend <;> exact hnone

omit [DecidableEq File] [LinearOrder Entry] in
/-- What executing the statement in the transaction of an attempt does. -/
theorem executeUpdate_spec {s : State File Entry Row}
    (htransaction : backend ≠ .noSQLMongoDB → s.transaction = some []) :
    (executeUpdate backend rejects s).1.trace = s.trace ∧
      if (insertRows rejects s.database s.statement).2 then
        (executeUpdate backend rejects s).2 = none ∧
          (endTransaction backend (executeUpdate backend rejects s).1 true).database =
            s.database ++ s.statement
      else
        (executeUpdate backend rejects s).2 = some .databaseDataError ∧
          (executeUpdate backend rejects s).1.database =
            s.database ++ remaining backend rejects s.database s.statement := by
  cases hins : insertRows rejects s.database s.statement with
  | mk inserted all =>
    unfold executeUpdate remaining
    cases backend with
    | noSQLMongoDB =>
      simp only [hins]
      cases all with
      | true =>
        refine ⟨rfl, ?_⟩
        rw [if_pos rfl]
        refine ⟨rfl, ?_⟩
        show s.database ++ inserted = _
        have hall := insertRows_all rejects (congrArg Prod.snd hins)
        rw [hins] at hall
        rw [← hall]
      | false => exact ⟨rfl, by rw [if_neg (by decide)]; exact ⟨rfl, rfl⟩⟩
    | sqlMariaDB | sqlPostgreSQL =>
      have htr : s.transaction = some [] := htransaction (by decide)
      simp only [htr, Option.getD_some, List.append_nil, hins]
      cases all with
      | true => exact ⟨rfl, by rw [if_pos rfl]; exact ⟨rfl, rfl⟩⟩
      | false => exact ⟨rfl, by rw [if_neg (by decide)]; exact ⟨rfl, rfl⟩⟩

omit [DecidableEq File] [LinearOrder Entry] in
/-- The statement is executed in the transaction of the attempt.  All of its rows are stored then,
or the rows that remain of a rejected statement. -/
theorem finish_spec {s : State File Entry Row} (hrows : s.rows = s.statement.length)
    (htransaction : backend ≠ .noSQLMongoDB → s.transaction = some []) :
    verdicts (finish backend rejects s).1.trace = verdicts s.trace ∧
      if (insertRows rejects s.database s.statement).2 then
        (finish backend rejects s).2 = none ∧
          (finish backend rejects s).1.database = s.database ++ s.statement
      else
        (finish backend rejects s).2 = some .databaseDataError ∧
          (finish backend rejects s).1.database =
            s.database ++ remaining backend rejects s.database s.statement := by
  unfold finish
  by_cases hpos : s.rows > 0
  · rw [if_pos hpos]
    obtain ⟨htrace, hspec⟩ := executeUpdate_spec backend rejects htransaction
    cases hupdate : executeUpdate backend rejects s with
    | mk s' e =>
      rw [hupdate] at htrace hspec
      cases hall : (insertRows rejects s.database s.statement).2 with
      | true =>
        rw [hall, if_pos rfl] at hspec
        obtain ⟨rfl, hd⟩ := hspec
        rw [if_pos rfl]
        exact ⟨(endTransaction_verdicts backend s' true).trans (congrArg verdicts htrace), rfl, hd⟩
      | false =>
        rw [hall, if_neg (by decide)] at hspec
        obtain ⟨rfl, hd⟩ := hspec
        rw [if_neg (by decide)]
        exact ⟨congrArg verdicts htrace, rfl, hd⟩
  · have hst : s.statement = [] := List.length_eq_zero_iff.mp (by omega)
    rw [if_neg hpos, hst, if_pos (by rfl), List.append_nil]
    refine ⟨endTransaction_verdicts backend s false, rfl, ?_⟩
    cases backend <;> rfl

omit [DecidableEq File] [LinearOrder Entry] in
theorem importAttempt_unreadable {s : State File Entry Row} {files : List File}
    (h : readingFails env (s.clock + 1) files) :
    ∃ s' f e, f ∈ files ∧ (∃ t, fileException env t f = some e) ∧ s.OnlyRead s' ∧
      importAttempt backend rejects env s files = (s', some f, some e) := by
  rw [← begin_clock backend] at h
  obtain ⟨s', f, e, hf, he, hread, hparse⟩ := parseFiles_throws env _ none files h
  refine ⟨s', f, e, hf, he, (begin_onlyRead backend s).trans hread, ?_⟩
  unfold importAttempt
  rw [hparse]

omit [DecidableEq File] [LinearOrder Entry] in
theorem importAttempt_read {s : State File Entry Row} {files : List File}
    (h : ¬ readingFails env (s.clock + 1) files) :
    ∃ s' last e, (files ≠ [] → ∃ f ∈ files, last = some f) ∧
      importAttempt backend rejects env s files = (s', last, e) ∧
      verdicts s'.trace = verdicts s.trace ∧
      if (insertRows rejects s.database (rowsRead env (s.clock + 1) files)).2 then
        e = none ∧ s'.database = s.database ++ rowsRead env (s.clock + 1) files
      else
        e = some .databaseDataError ∧ s'.database = s.database ++
          remaining backend rejects s.database (rowsRead env (s.clock + 1) files) := by
  rw [← begin_clock backend] at h
  obtain ⟨last, hlast, hnone, hparse⟩ := parseFiles_ok env _ none files h
  obtain ⟨s', hs', hstatement, hrows, htransaction, hdatabase, hverdicts⟩ :
      ∃ s', parseFiles env (begin backend s).tick none files = (s', last, none) ∧
        s'.statement = rowsRead env (s.clock + 1) files ∧
        s'.rows = s'.statement.length ∧
        (backend ≠ .noSQLMongoDB → s'.transaction = some []) ∧
        s'.database = s.database ∧ verdicts s'.trace = verdicts s.trace := by
    refine ⟨_, hparse, ?_, ?_, begin_transaction backend s, (begin_onlyRead backend s).database, ?_⟩
    · rw [begin_clock]
      rfl
    · simp [begin, State.tick]
    · rw [verdicts_append, verdicts_eq_nil fun f b hin => readingTrace_reading env _ _ _ hin,
        List.append_nil]
      exact verdicts_onlyRead (begin_onlyRead backend s)
  obtain ⟨hv, hspec⟩ := finish_spec backend rejects hrows htransaction
  rw [hstatement, hdatabase] at hspec
  refine ⟨_, last, _, fun hne => ?_, by unfold importAttempt; rw [hs'], hv.trans hverdicts, hspec⟩
  cases last with
  | none => exact absurd (hnone rfl) hne
  | some f => exact ⟨f, (hlast f rfl).resolve_right (by simp), rfl⟩

/-- A rollback keeps what is stored; in slow mode the file is finished as bad. -/
theorem rollbackHandler_spec (s : State File Entry Row) (bad : Bool) (f : File) :
    (rollbackHandler backend env ops cfg s bad (some f)).2 = false ∧
      (rollbackHandler backend env ops cfg s bad (some f)).1.database = s.database ∧
      verdicts (rollbackHandler backend env ops cfg s bad (some f)).1.trace =
        verdicts s.trace ++ if bad then [(f, false)] else [] := by
  have hd : (endTransaction backend s false).database = s.database := by cases backend <;> rfl
  have hv := endTransaction_verdicts backend s false
  unfold rollbackHandler
  cases bad with
  | true =>
    have hfin := finishedFile_finished env ops cfg (endTransaction backend s false) f false
    refine ⟨rfl, hfin.database.trans hd, (finishedFile_verdicts env ops cfg _ f false).trans ?_⟩
    rw [hv]
    rfl
  | false => exact ⟨rfl, hd, hv.trans (List.append_nil _).symm⟩

/-- What a call that fails does to the files: nothing in fast mode. -/
def badFiles (files : List File) : List (File × Bool) :=
  if files.length > 1 then [] else files.map fun f => (f, false)

omit [DecidableEq File] [LinearOrder Entry] in
theorem badFiles_eq {files : List File} {f : File} (h : f ∈ files) :
    badFiles files = if ¬ files.length > 1 then [(f, false)] else [] := by
  unfold badFiles
  by_cases hlen : files.length > 1
  · rw [if_pos hlen, if_neg (not_not_intro hlen)]
  · rw [if_neg hlen, if_pos hlen]
    match files with
    | [] => cases h
    | [g] =>
      rw [List.mem_singleton.mp h]
      rfl
    | _ :: _ :: _ => simp at hlen

theorem importFiles_unreadable {s : State File Entry Row} {files : List File}
    (h : readingFails env (s.clock + 1) files) :
    (importFiles backend rejects env ops cfg s files).2 = false ∧
      (importFiles backend rejects env ops cfg s files).1.database = s.database ∧
      ((∀ t, ∀ f ∈ files, fileException env t f ≠ some .database) →
        verdicts (importFiles backend rejects env ops cfg s files).1.trace =
          verdicts s.trace ++ badFiles files) := by
  obtain ⟨s', f, e, hf, ⟨t, he⟩, hread, hattempt⟩ :=
    importAttempt_unreadable backend rejects env (s := s.log .importFiles) h
  have hv : verdicts s'.trace = verdicts s.trace :=
    (verdicts_onlyRead hread).trans
      ((verdicts_append [.importFiles] s.trace).trans (List.append_nil _))
  have hbad := badFiles_eq hf
  unfold importFiles
  simp only
  rw [hattempt]
  cases e with
  | database =>
    refine ⟨rfl, ?_, fun hno => absurd he (hno t f hf)⟩
    have hd : (reconnect backend s').database = s'.database := by cases backend <;> rfl
    exact hd.trans hread.database
  | readerDataError | databaseDataError | other =>
    obtain ⟨h2, hd, hve⟩ := rollbackHandler_spec backend env ops cfg s' _ f
    refine ⟨h2, hd.trans hread.database, fun _ => hve.trans ?_⟩
    rw [hv, hbad]
    simp

theorem importFiles_read {s : State File Entry Row} {files : List File}
    (h : ¬ readingFails env (s.clock + 1) files) :
    let rows := rowsRead env (s.clock + 1) files
    let s' := importFiles backend rejects env ops cfg s files
    if (insertRows rejects s.database rows).2 then
      s'.2 = true ∧ s'.1.database = s.database ++ rows ∧
        verdicts s'.1.trace = verdicts s.trace ++ files.map fun f => (f, true)
    else
      s'.2 = false ∧ s'.1.database = s.database ++ remaining backend rejects s.database rows ∧
        verdicts s'.1.trace = verdicts s.trace ++ badFiles files := by
  intro rows s'
  obtain ⟨s₁, last, e, hlast, hattempt, hv, hspec⟩ :=
    importAttempt_read backend rejects env (s := s.log .importFiles) h
  have hlog : verdicts (s.log .importFiles).trace = verdicts s.trace :=
    (verdicts_append [.importFiles] s.trace).trans (List.append_nil _)
  split at hspec
  · next hall =>
    change (insertRows rejects s.database rows).2 = true at hall
    obtain ⟨rfl, hd⟩ := hspec
    have hs' : s' = (finishFiles env ops cfg s₁ files, true) := by
      show importFiles backend rejects env ops cfg s files = _
      unfold importFiles
      simp only
      rw [hattempt]
    obtain ⟨hfd, hfv⟩ := finishFiles_spec env ops cfg s₁ files
    rw [if_pos hall, hs']
    exact ⟨rfl, hfd.trans hd, by rw [hfv, hv, hlog]⟩
  · next hall =>
    change ¬ (insertRows rejects s.database rows).2 = true at hall
    obtain ⟨rfl, hd⟩ := hspec
    have hne : files ≠ [] := by
      rintro rfl
      exact hall rfl
    obtain ⟨f, hf, rfl⟩ := hlast hne
    have hs' : s' = rollbackHandler backend env ops cfg s₁ (¬ files.length > 1) (some f) := by
      show importFiles backend rejects env ops cfg s files = _
      unfold importFiles
      simp only
      rw [hattempt]
    obtain ⟨h2, hrd, hrv⟩ := rollbackHandler_spec backend env ops cfg s₁ (¬ files.length > 1) f
    rw [if_neg hall, hs']
    refine ⟨h2, hrd.trans hd, hrv.trans ?_⟩
    rw [hv, hlog, badFiles_eq hf]
    simp

/-! ## Traceless failures -/

omit [DecidableEq File] [LinearOrder Entry] in
/-- Rejected rows leave nothing exactly if the first one is rejected, or the database rolls back. -/
theorem remaining_eq_nil_iff {present rows : List Row}
    (h : ¬ (insertRows rejects present rows).2 = true) :
    remaining backend rejects present rows = [] ↔
      (backend = .noSQLMongoDB → Whole rejects present rows) := by
  unfold remaining Whole
  cases backend with
  | sqlMariaDB | sqlPostgreSQL => simp
  | noSQLMongoDB => simp [h]

/-- Nothing of a failed list is stored exactly if MongoDB was not in the middle of its rows. -/
theorem importFiles_traceless_iff {s : State File Entry Row} {files : List File}
    (hfails : (importFiles backend rejects env ops cfg s files).2 = false) :
    (importFiles backend rejects env ops cfg s files).1.database = s.database ↔
      (backend = .noSQLMongoDB → Traceless rejects env s.database (s.clock + 1) files) := by
  unfold Traceless
  by_cases hread : readingFails env (s.clock + 1) files
  · have hd := (importFiles_unreadable backend rejects env ops cfg hread).2.1
    exact ⟨fun _ _ hno => absurd hread hno, fun _ => hd⟩
  · have hspec := importFiles_read backend rejects env ops cfg hread
    simp only at hspec
    split at hspec
    · rw [hspec.1] at hfails
      cases hfails
    · next hall =>
      rw [hspec.2.1, List.append_right_eq_self, remaining_eq_nil_iff backend rejects hall]
      exact ⟨fun h hb _ => h hb, fun h hb => h hb hread⟩

/-! ## The retry -/

section
variable {rows : File → List Row} {exception : File → Option ResultsException}

omit [DecidableEq File] [LinearOrder Entry] in
theorem Steady.stopRequested (h : Steady env rows exception) (t : Nat) :
    env.stopRequested t = false := by
  simp [Environment.stopRequested, h.stopAt]

omit [DecidableEq File] [LinearOrder Entry] in
/-- A single file is reached at once. -/
theorem Steady.single (h : Steady env rows exception) (t : Nat) (f : File) :
    (readingFails env t [f] ↔ exception f ≠ none) ∧ rowsRead env t [f] = rows f := by
  have hr : reached env t [f] = [(t, f)] := by
    unfold reached
    rw [h.stopRequested]
    rfl
  constructor
  · unfold readingFails
    rw [hr]
    simp [h.fileException, Option.isSome_iff_ne_none]
  · unfold rowsRead
    rw [hr]
    simp [h.fileRows]

/-- What remains of a file that is not good. -/
def remainingOf (rows : File → List Row) (exception : File → Option ResultsException)
    (present : List Row) (f : File) : List Row :=
  if good rejects rows exception present f ∨ exception f ≠ none then []
  else remaining backend rejects present (rows f)

omit [DecidableEq File] [LinearOrder Entry] in
theorem remainingOf_eq_nil_iff {present : List Row} {f : File} :
    remainingOf backend rejects rows exception present f = [] ↔
      (backend = .noSQLMongoDB → exception f = none → Whole rejects present (rows f)) := by
  unfold remainingOf
  by_cases he : exception f = none
  · by_cases hall : (insertRows rejects present (rows f)).2 = true
    · rw [if_pos (Or.inl (by unfold good; simp [he, hall]))]
      refine ⟨fun _ _ _ hno => ?_, fun _ => rfl⟩
      rw [hall] at hno
      cases hno
    · rw [if_neg (by unfold good; simp [he, hall]), remaining_eq_nil_iff backend rejects hall]
      exact ⟨fun h hb _ => h hb, fun h hb => h hb he⟩
  · rw [if_pos (Or.inr he)]
    exact ⟨fun _ _ hno => absurd hno he, fun _ => rfl⟩

theorem importFiles_single (h : Steady env rows exception) (s : State File Entry Row) (f : File) :
    (importFiles backend rejects env ops cfg s [f]).1.database =
        stored rejects rows exception s.database f ++
          remainingOf backend rejects rows exception s.database f ∧
      verdicts (importFiles backend rejects env ops cfg s [f]).1.trace =
        verdicts s.trace ++ [(f, good rejects rows exception s.database f)] := by
  obtain ⟨hfails, hrows⟩ := h.single env (s.clock + 1) f
  unfold stored remainingOf
  by_cases hread : readingFails env (s.clock + 1) [f]
  · have he := hfails.mp hread
    have hbad : good rejects rows exception s.database f = false := by
      unfold good
      simp [he]
    obtain ⟨-, hd, hv⟩ := importFiles_unreadable backend rejects env ops cfg hread
    rw [hbad, if_neg (by decide), if_pos (Or.inr he), List.append_nil]
    refine ⟨hd, hv fun t g _ => ?_⟩
    rw [h.fileException]
    exact h.parseError g
  · have he : exception f = none := by
      by_contra hne
      exact hread (hfails.mpr hne)
    have hspec := importFiles_read backend rejects env ops cfg hread
    simp only [hrows] at hspec
    split at hspec
    · next hall =>
      have hgood : good rejects rows exception s.database f = true := by
        unfold good
        simp [he, hall]
      rw [hgood, if_pos rfl, if_pos (Or.inl rfl), List.append_nil]
      exact ⟨hspec.2.1, hspec.2.2⟩
    · next hall =>
      have hbad : good rejects rows exception s.database f = false := by
        unfold good
        simp [hall]
      rw [hbad, if_neg (by decide), if_neg (by simp [he])]
      exact ⟨hspec.2.1, hspec.2.2⟩

theorem slowMode_cons (h : Steady env rows exception) (s : State File Entry Row) (f : File)
    (fs : List File) : slowMode backend rejects env ops cfg s (f :: fs) =
      slowMode backend rejects env ops cfg
        (importFiles backend rejects env ops cfg s.tick [f]).1 fs := by
  conv => lhs; unfold slowMode
  rw [h.stopRequested, if_neg (by decide)]

theorem slowMode_verdicts (h : Steady env rows exception) (s : State File Entry Row)
    (files : List File) : ∃ new, verdicts (slowMode backend rejects env ops cfg s files).trace =
      verdicts s.trace ++ new := by
  induction files generalizing s with
  | nil => exact ⟨[], (List.append_nil _).symm⟩
  | cons f fs ih =>
    obtain ⟨new, hnew⟩ := ih (importFiles backend rejects env ops cfg s.tick [f]).1
    have hv := (importFiles_single backend rejects env ops cfg h s.tick f).2
    rw [slowMode_cons backend rejects env ops cfg h, hnew, hv, List.append_assoc]
    exact ⟨_, rfl⟩

/-- If the retry of a list gives the right verdicts, so does its first file and the retry of the
rest. -/
theorem slowMode_verdicts_cons (h : Steady env rows exception) {s : State File Entry Row}
    {present : List Row} {f : File} {fs : List File}
    (hv : verdicts (slowMode backend rejects env ops cfg s (f :: fs)).trace =
      verdicts s.trace ++ verdictsOneByOne rejects rows exception present (f :: fs)) :
    good rejects rows exception s.database f = good rejects rows exception present f ∧
      verdicts (slowMode backend rejects env ops cfg
        (importFiles backend rejects env ops cfg s.tick [f]).1 fs).trace =
        verdicts (importFiles backend rejects env ops cfg s.tick [f]).1.trace ++
          verdictsOneByOne rejects rows exception (stored rejects rows exception present f) fs := by
  have hv₁ := (importFiles_single backend rejects env ops cfg h s.tick f).2
  obtain ⟨new, hnew⟩ := slowMode_verdicts backend rejects env ops cfg h
    (importFiles backend rejects env ops cfg s.tick [f]).1 fs
  rw [slowMode_cons backend rejects env ops cfg h, hnew, hv₁, List.append_assoc] at hv
  have hcons := List.append_cancel_left hv
  rw [verdictsOneByOne, List.singleton_append] at hcons
  obtain ⟨hfirst, hrest⟩ := List.cons.inj hcons
  exact ⟨(Prod.mk.inj hfirst).2, by rw [hnew, hrest]⟩

/-- Rows that remain are never made up for: with the same verdicts, more is stored at the end. -/
theorem slowMode_longer (h : Steady env rows exception) {s : State File Entry Row}
    {present : List Row} {files : List File} (hlt : present.length < s.database.length)
    (hv : verdicts (slowMode backend rejects env ops cfg s files).trace =
      verdicts s.trace ++ verdictsOneByOne rejects rows exception present files) :
    (storedOneByOne rejects rows exception present files).length <
      (slowMode backend rejects env ops cfg s files).database.length := by
  induction files generalizing s present with
  | nil => exact hlt
  | cons f fs ih =>
    obtain ⟨hfirst, hrest⟩ := slowMode_verdicts_cons backend rejects env ops cfg h hv
    have hd := (importFiles_single backend rejects env ops cfg h s.tick f).1
    rw [slowMode_cons backend rejects env ops cfg h]
    refine ih ?_ hrest
    rw [hd]
    show (stored rejects rows exception present f).length <
      (stored rejects rows exception s.database f ++ _).length
    unfold stored
    rw [hfirst, List.length_append]
    split
    · rw [List.length_append, List.length_append]
      omega
    · omega

/-- The retry is right exactly if every file is whole at its turn, or the database rolls back. -/
theorem slowMode_right_iff (h : Steady env rows exception) (s : State File Entry Row)
    (files : List File) :
    ((slowMode backend rejects env ops cfg s files).database =
        storedOneByOne rejects rows exception s.database files ∧
      verdicts (slowMode backend rejects env ops cfg s files).trace =
        verdicts s.trace ++ verdictsOneByOne rejects rows exception s.database files) ↔
      (backend = .noSQLMongoDB → WholeOneByOne rejects rows exception s.database files) := by
  induction files generalizing s with
  | nil => exact ⟨fun _ _ => trivial, fun _ => ⟨rfl, (List.append_nil _).symm⟩⟩
  | cons f fs ih =>
    obtain ⟨hd, hv⟩ := importFiles_single backend rejects env ops cfg h s.tick f
    change _ = stored rejects rows exception s.database f ++
      remainingOf backend rejects rows exception s.database f at hd
    change _ = verdicts s.trace ++ [(f, good rejects rows exception s.database f)] at hv
    have hrem : remainingOf backend rejects rows exception s.database f = [] ↔
        (backend = .noSQLMongoDB → exception f = none → Whole rejects s.database (rows f)) :=
      remainingOf_eq_nil_iff backend rejects
    rw [slowMode_cons backend rejects env ops cfg h]
    constructor
    · rintro ⟨hdb, hver⟩ hb
      rw [← slowMode_cons backend rejects env ops cfg h] at hver
      obtain ⟨-, hrest⟩ := slowMode_verdicts_cons backend rejects env ops cfg h hver
      have hnil : remainingOf backend rejects rows exception s.database f = [] := by
        by_contra hne
        have hpos := List.length_pos_iff.mpr hne
        have hlt : (stored rejects rows exception s.database f).length <
            (importFiles backend rejects env ops cfg s.tick [f]).1.database.length := by
          rw [hd, List.length_append]
          omega
        have hlonger := slowMode_longer backend rejects env ops cfg h hlt hrest
        rw [hdb] at hlonger
        exact Nat.lt_irrefl _ hlonger
      rw [hnil, List.append_nil] at hd
      rw [← hd] at hrest
      have hwhole := (ih _).mp ⟨by rw [hdb, hd]; rfl, hrest⟩ hb
      rw [hd] at hwhole
      exact ⟨hrem.mp hnil hb, hwhole⟩
    · intro hcond
      have hnil := hrem.mpr fun hb => (hcond hb).1
      rw [hnil, List.append_nil] at hd
      obtain ⟨hdb, hver⟩ := (ih (importFiles backend rejects env ops cfg s.tick [f]).1).mpr
        fun hb => by rw [hd]; exact (hcond hb).2
      rw [hd] at hdb hver
      refine ⟨hdb, ?_⟩
      rw [hver, hv, List.append_assoc]
      rfl

end

/-- **Rolling back.**  A list that is rolled back leaves nothing behind exactly if MongoDB was not in
the middle of its rows.  The retry after that is right, on top of what was stored before the list,
exactly if the same goes for each of its files. -/
theorem rollback_traceless_iff (s : State File Entry Row) (files : List File)
    (hfails : (importFiles backend rejects env ops cfg s files).2 = false) :
    ((importFiles backend rejects env ops cfg s files).1.database = s.database ↔
      (backend = .noSQLMongoDB → Traceless rejects env s.database (s.clock + 1) files)) ∧
    ∀ rows exception, Steady env rows exception → 1 < files.length →
      let failed := (importFiles backend rejects env ops cfg s files).1
      let retried := slowMode backend rejects env ops cfg failed files
      (failed.database = s.database ∧
        retried.database = storedOneByOne rejects rows exception s.database files ∧
        verdicts retried.trace =
          verdicts s.trace ++ verdictsOneByOne rejects rows exception s.database files ↔
      (backend = .noSQLMongoDB → Traceless rejects env s.database (s.clock + 1) files ∧
        WholeOneByOne rejects rows exception s.database files)) := by
  have hfirst := importFiles_traceless_iff backend rejects env ops cfg hfails
  refine ⟨hfirst, ?_⟩
  intro rows exception h hlen failed retried
  have hv : verdicts failed.trace = verdicts s.trace := by
    have hnone : verdicts s.trace ++ badFiles files = verdicts s.trace := by
      unfold badFiles
      rw [if_pos hlen, List.append_nil]
    by_cases hread : readingFails env (s.clock + 1) files
    · refine ((importFiles_unreadable backend rejects env ops cfg hread).2.2 fun t f _ => ?_).trans
        hnone
      rw [h.fileException]
      exact h.parseError f
    · have hspec := importFiles_read backend rejects env ops cfg hread
      simp only at hspec
      split at hspec
      · rw [hspec.1] at hfails
        cases hfails
      · exact hspec.2.2.trans hnone
  have hretry := slowMode_right_iff backend rejects env ops cfg h failed files
  rw [hv] at hretry
  constructor
  · rintro ⟨hd, hdb, hver⟩ hb
    rw [hd] at hretry
    exact ⟨hfirst.mp hd hb, hretry.mp ⟨hdb, hver⟩ hb⟩
  · intro hcond
    have hd := hfirst.mpr fun hb => (hcond hb).1
    change failed.database = s.database at hd
    rw [hd] at hretry
    exact ⟨hd, hretry.mpr fun hb => (hcond hb).2⟩

/-! ## The SQL clients are transactional -/

/-- The answers of a database that holds the rows `present`, whose connection is not lost. -/
def atDatabase (present : List Row) : Environment File Row :=
  { env with
    startTransaction := fun _ => none
    beginParsing := fun _ => none
    executeUpdate := fun _ statement =>
      if (insertRows rejects present statement).2 then none else some .databaseDataError
    commit := fun _ => none
    rollback := fun _ => none
    reconnect := fun _ => none }

omit [DecidableEq File] [LinearOrder Entry] in
theorem parseFiles_atDatabase (present : List Row) (s : State File Entry Row) (cur : Option File)
    (files : List File) :
    parseFiles (atDatabase rejects env present) s cur files = parseFiles env s cur files := by
  induction files generalizing s cur with
  | nil => rfl
  | cons f fs ih =>
    have hprocess : processFile (atDatabase rejects env present) s f = processFile env s f := rfl
    have hstop : (atDatabase rejects env present).stopRequested s.clock =
        env.stopRequested s.clock := rfl
    unfold parseFiles
    rw [hprocess, hstop]
    simp only [ih]

theorem finishFiles_atDatabase (present : List Row) (s : State File Entry Row)
    (files : List File) :
    finishFiles (atDatabase rejects env present) ops cfg s files =
      finishFiles env ops cfg s files := by
  induction files generalizing s with
  | nil => rfl
  | cons f fs ih => exact ih _

omit [DecidableEq File] [LinearOrder Entry] in
theorem importAttempt_atDatabase (hb : backend ≠ .noSQLMongoDB) (s : State File Entry Row)
    (files : List File) :
    Importer.importAttempt (atDatabase rejects env s.database) s files =
      importAttempt backend rejects env s files := by
  have hbegin : Importer.begin (atDatabase rejects env s.database) s = (begin backend s, none) := by
    cases backend with
    | noSQLMongoDB => exact absurd rfl hb
    | sqlMariaDB | sqlPostgreSQL => rfl
  have htransaction := begin_transaction backend s hb
  have hdatabase := (begin_onlyRead backend s).database
  unfold Importer.importAttempt importAttempt
  rw [hbegin]
  simp only
  rw [parseFiles_atDatabase]
  by_cases hread : readingFails env (begin backend s).tick.clock files
  · obtain ⟨s', f, e, -, -, -, hparse⟩ := parseFiles_throws env _ none files hread
    rw [hparse]
  · obtain ⟨last, -, -, hparse⟩ := parseFiles_ok env _ none files hread
    rw [hparse]
    generalize hs' : ({ (begin backend s).tick with
      clock := _, statement := _, rows := _, trace := _ } : State File Entry Row) = s'
    have htr : s'.transaction = some [] := by rw [← hs']; exact htransaction
    have hdb : s'.database = s.database := by rw [← hs']; exact hdatabase
    unfold Importer.finishParsing finish
    by_cases hpos : s'.rows > 0
    · have hupdate : (atDatabase rejects env s.database).executeUpdate s'.clock s'.statement =
          if (insertRows rejects s.database s'.statement).2 then none
          else some .databaseDataError := rfl
      simp only [if_pos hpos, hupdate]
      cases hins : insertRows rejects s.database s'.statement with
      | mk inserted all =>
        have hexecute : executeUpdate backend rejects s' =
            if all then
              ({ s' with statement := [], transaction := s'.transaction.map (· ++ s'.statement) }, none)
            else (s', some .databaseDataError) := by
          unfold executeUpdate
          cases backend with
          | noSQLMongoDB => exact absurd rfl hb
          | sqlMariaDB | sqlPostgreSQL =>
            simp only [htr, hdb, Option.getD_some, List.append_nil, hins]
            cases all <;> rfl
        rw [hexecute]
        cases all with
        | true =>
          cases backend with
          | noSQLMongoDB => exact absurd rfl hb
          | sqlMariaDB | sqlPostgreSQL => rfl
        | false => rfl
    · simp only [if_neg hpos]
      cases backend with
      | noSQLMongoDB => exact absurd rfl hb
      | sqlMariaDB | sqlPostgreSQL => rfl

/-- With the SQL clients, a call is the one of the worker with a transactional database. -/
theorem importFiles_transactional (hb : backend ≠ .noSQLMongoDB) (s : State File Entry Row)
    (files : List File) :
    Importer.importFiles (atDatabase rejects env s.database) ops cfg s files =
      ((importFiles backend rejects env ops cfg s files).1,
        .returned (importFiles backend rejects env ops cfg s files).2) := by
  have hend : ∀ (s' : State File Entry Row) bad dataFile,
      Importer.rollbackHandler (atDatabase rejects env s.database) ops cfg s' bad dataFile =
        ((rollbackHandler backend env ops cfg s' bad dataFile).1,
          .returned (rollbackHandler backend env ops cfg s' bad dataFile).2) := by
    intro s' bad dataFile
    cases backend with
    | noSQLMongoDB => exact absurd rfl hb
    | sqlMariaDB | sqlPostgreSQL => cases bad <;> rfl
  have hreconnect : ∀ s' : State File Entry Row,
      Importer.reconnect (atDatabase rejects env s.database) s' =
        ((reconnect backend s').tick, .returned false) := by
    intro s'
    cases backend with
    | noSQLMongoDB => exact absurd rfl hb
    | sqlMariaDB | sqlPostgreSQL => rfl
  have hattempt := importAttempt_atDatabase backend rejects env hb (s.log .importFiles) files
  unfold Importer.importFiles importFiles
  simp only
  change Importer.importAttempt (atDatabase rejects env s.database) _ files = _ at hattempt
  rw [hattempt]
  obtain ⟨s', dataFile, e⟩ := importAttempt backend rejects env (s.log .importFiles) files
  cases e with
  | none => exact Prod.ext (finishFiles_atDatabase rejects env ops cfg _ _ files) rfl
  | some e =>
    cases e with
    | readerDataError | databaseDataError | other => exact hend _ _ _
    | database => exact hreconnect _

end

/-! ## Two files, and a row that is stored already -/

/-- A unique index. -/
def duplicate (present : List Nat) (row : Nat) : Bool := row ∈ present

/-- The files 1 and 2 wait, with these numbers as their only rows. -/
def twoQueued (database : List Nat) : State Nat Nat Nat :=
  (Worker.start ((addFile numberedFiles (addFile numberedFiles (Reader.empty 1) 0 1).1 0 2).1)
    database : Worker Nat Nat Nat).state

theorem twoFiles_steady : Steady (twoFiles none) (fun f => [f]) fun _ => none :=
  ⟨rfl, fun _ _ => rfl, fun _ _ => rfl, fun _ he => by cases he⟩

/-- PostgreSQL, and row 2 is stored already: fast mode leaves nothing, and the retry imports the
first file. -/
theorem rollback_traceless_sql :
    let failed :=
      (importFiles .sqlPostgreSQL duplicate (twoFiles none) numberedFiles deleting
        (twoQueued [2]) [1, 2]).1
    let retried :=
      slowMode .sqlPostgreSQL duplicate (twoFiles none) numberedFiles deleting failed [1, 2]
    failed.database = [2] ∧ retried.database = [2, 1] ∧
      verdicts retried.trace = [(1, true), (2, false)] :=
  ((rollback_traceless_iff .sqlPostgreSQL duplicate (twoFiles none) numberedFiles deleting
    (twoQueued [2]) [1, 2] (by decide)).2 _ _ twoFiles_steady (by decide)).mpr (fun h => by cases h)

/-- MongoDB: row 1 remains of the failed list, and the good file 1 is finished as bad because of
it. -/
theorem rollback_mongodb_leaves_row :
    let failed :=
      (importFiles .noSQLMongoDB duplicate (twoFiles none) numberedFiles deleting
        (twoQueued [2]) [1, 2])
    let retried :=
      slowMode .noSQLMongoDB duplicate (twoFiles none) numberedFiles deleting failed.1 [1, 2]
    failed.2 = false ∧ failed.1.database = [2, 1] ∧
      verdicts retried.trace = [(1, false), (2, false)] ∧
      verdictsOneByOne duplicate (fun f => [f]) (fun _ => none) [2] [1, 2] =
        [(1, true), (2, false)] := by
  decide

end HiPerConTracer.Importer.DatabaseClient
