import HiPerConTracer.Lib.Run
import HiPerConTracer.Importer.Handlers

/-!
# Transactions of the PostgreSQL client (`databaseclient-postgresql.cc`)

`importFiles` with the PostgreSQL client.  A failure in `commit` or `abort` leaves the transaction
object behind, and becomes one of two classes of exceptions.  Whenever `importFiles` returns, there is
no transaction, and no assertion fails.  But an exception of `abort` or of a new connection that is no
`pqxx::failure` escapes, if it meets a handler:

    a run of imports reaches its end ↔ no exception escapes one of them   (importFiles_transaction)

`Escapes` says it with the outcomes of the calls alone: those of the `try` block decide which
exception is caught, and after how many calls (`tryBlock`).
-/

namespace HiPerConTracer.Importer.Handlers
open Throwing

/-! ## The client -/

/-- The outcome of a call of the library. -/
inductive Pqxx where
  | ok
  /-- `pqxx::failure`: whether it is an `sql_error`, and whether the connection is still open. -/
  | failure (sqlError isOpen : Bool)
  /-- Another exception. -/
  | generic
deriving DecidableEq, Repr

/-- The exception for a failure while there is a connection. -/
def Pqxx.exception : Pqxx → Option ResultsException
  | .ok => none
  | .failure sqlError isOpen => some (if isOpen ∧ sqlError then .databaseDataError else .database)
  | .generic => some .other

/-- What fails, by the number of calls before it. -/
structure Choices (File : Type) where
  /-- Creating a transaction, `exec` and `commit`. -/
  pqxx : Nat → Pqxx
  abort : Nat → Pqxx
  /-- Creating a connection. -/
  connects : Nat → Pqxx
  beginParsing : Nat → Option ResultsException
  stopRequested : Nat → Bool
  processFile : Nat → File → Option ResultsException
  /-- Whether there are rows. -/
  rows : Nat → Bool

/-- Whether `Connection` and `Transaction` are no null pointers. -/
structure PostgreSQLClient where
  connection : Bool
  transaction : Bool
  steps : Nat
deriving DecidableEq, Repr

namespace PostgreSQLClient
variable {File : Type}

def assert (p : PostgreSQLClient → Bool) : Program Thrown PostgreSQLClient Unit := do
  let holds ← act fun s => (p s, s)
  if holds then pure () else throw .assertion

/-- The next call, of which the outcome is chosen. -/
def next {α : Type} (o : Nat → α) : Program Thrown PostgreSQLClient α :=
  act fun s => (o s.steps, { s with steps := s.steps + 1 })

def setTransaction (transaction : Bool) : Program Thrown PostgreSQLClient Unit :=
  act fun s => ((), { s with transaction })

def setConnection (connection : Bool) : Program Thrown PostgreSQLClient Unit :=
  act fun s => ((), { s with connection })

def handleDatabaseException (sqlError isOpen : Bool) : Program Thrown PostgreSQLClient Unit := do
  let connection ← act fun s => (s.connection, s)
  throw (.exception (if connection ∧ isOpen ∧ sqlError then .databaseDataError else .database))

/-- A call of the library in a `try` block, and what follows if it does not fail. -/
def guarded (o : Nat → Pqxx) (following : Program Thrown PostgreSQLClient Unit) :
    Program Thrown PostgreSQLClient Unit := do
  let outcome ← next o
  match outcome with
  | .ok => following
  | .failure sqlError isOpen => handleDatabaseException sqlError isOpen
  | .generic => throw (.exception .other)

variable (o : Choices File)

def startTransaction : Program Thrown PostgreSQLClient Unit := do
  assert fun s => s.transaction = false
  let connection ← act fun s => (s.connection, s)
  if connection then do
    guarded o.pqxx (setTransaction true)
    assert fun s => s.transaction
  else throw (.exception .database)

def endTransaction (commit : Bool) : Program Thrown PostgreSQLClient Unit := do
  let transaction ← act fun s => (s.transaction, s)
  if transaction then guarded (if commit then o.pqxx else o.abort) (setTransaction false)
  else assert fun _ => commit = false

def executeUpdate : Program Thrown PostgreSQLClient Unit := do
  assert fun s => s.transaction
  guarded o.pqxx (pure ())

/-- `finishParsing` of the reader. -/
def finishParsing : Program Thrown PostgreSQLClient Bool := do
  let rows ← next o.rows
  if rows then do
    executeUpdate o
    return true
  else return false

def close : Program Thrown PostgreSQLClient Unit := do
  setTransaction false
  setConnection false

/-- `open`, which returns false for a `pqxx::failure`. -/
def openConnection : Program Thrown PostgreSQLClient Bool := do
  assert fun s => s.connection = false
  let outcome ← next o.connects
  match outcome with
  | .ok => do
    setConnection true
    return true
  | .failure _ _ => do
    close
    return false
  | .generic => throw (.exception .other)

def reconnect : Program Thrown PostgreSQLClient Unit := do
  close
  let _ ← openConnection o
  return ()

/-- A call of the reader. -/
def reading (outcome : Nat → Option ResultsException) : Program Thrown PostgreSQLClient Unit := do
  let e ← next outcome
  match e with
  | none => pure ()
  | some e => throw (.exception e)

def calls : Calls File PostgreSQLClient where
  startTransaction := startTransaction o
  beginParsing := reading o.beginParsing
  stopRequested := next o.stopRequested
  processFile := fun f => reading fun steps => o.processFile steps f
  finishParsing := finishParsing o
  commit := endTransaction o true
  rollback := endTransaction o false
  finishedFile := fun _ _ => pure ()
  reconnect := reconnect o

/-! ## Which exceptions escape -/

/-- How a `try` block is left: the exception, the calls made by then, and whether there is a
transaction. -/
structure Cause where
  exception : ResultsException
  steps : Nat
  transaction : Bool

/-- The calls made after the next one, of which the exception is given. -/
def after (e : Option ResultsException) (steps : Nat) (transaction : Bool) : Except Cause Nat :=
  match e with
  | none => .ok (steps + 1)
  | some e => .error ⟨e, steps + 1, transaction⟩

/-- The parsing of the files. -/
def parsing : List File → Nat → Except Cause Nat
  | [], steps => .ok steps
  | f :: fs, steps =>
    if o.stopRequested steps then .ok (steps + 1)
    else do
      let steps ← after (o.processFile (steps + 1) f) (steps + 1) true
      parsing fs steps

/-- The end of the transaction: the statement and the commit if there are rows, or a rollback. -/
def ending (steps : Nat) : Except Cause Nat :=
  if o.rows steps then do
    let steps ← after (o.pqxx (steps + 1)).exception (steps + 1) true
    after (o.pqxx steps).exception steps true
  else after (o.abort (steps + 1)).exception (steps + 1) true

/-- The `try` block of an import. -/
def tryBlock (connection : Bool) (steps : Nat) (files : List File) : Except Cause Nat :=
  if connection then do
    let steps ← after (o.pqxx steps).exception steps false
    let steps ← after (o.beginParsing steps) steps true
    let steps ← parsing o files steps
    ending o steps
  else .error ⟨.database, steps, false⟩

/-- A rollback that is left with an exception of another class: the one of `abort`, or, as a
`pqxx::failure` leads to a reconnect, the one of the new connection. -/
def RollbackEscapes (steps : Nat) : Prop :=
  o.abort steps = .generic ∨
    ((∃ sqlError isOpen, o.abort steps = .failure sqlError isOpen) ∧
      o.connects (steps + 1) = .generic)

/-- An exception of the import escapes: the handler that gets the exception of the `try` block
reconnects, or it has a transaction to roll back, and that is left with an exception. -/
def Escapes (s : PostgreSQLClient) (files : List File) : Prop :=
  ∃ cause, tryBlock o s.connection s.steps files = .error cause ∧
    if cause.exception = .database then o.connects cause.steps = .generic
    else cause.transaction = true ∧ RollbackEscapes o cause.steps

/-! ## What the calls do -/

section
variable {α : Type} {Q : Unit → PostgreSQLClient → Prop} {E : Thrown → PostgreSQLClient → Prop}
  {s : PostgreSQLClient}

theorem ends_assert {p : PostgreSQLClient → Bool} (h : p s = true) :
    Ends (assert p) Q E s ↔ Q () s := by
  unfold assert
  rw [ends_bind, ends_act, if_pos h]
  exact Iff.rfl

theorem ends_next {o : Nat → α} {Q : α → PostgreSQLClient → Prop} :
    Ends (next o) Q E s ↔ Q (o s.steps) { s with steps := s.steps + 1 } := Iff.rfl

theorem ends_reading {outcome : Nat → Option ResultsException} :
    Ends (reading outcome) Q E s ↔
      match outcome s.steps with
      | none => Q () { s with steps := s.steps + 1 }
      | some e => E (.exception e) { s with steps := s.steps + 1 } := by
  unfold reading
  rw [ends_bind, ends_next]
  cases outcome s.steps with
  | none => exact Iff.rfl
  | some e => exact Iff.rfl

/-- A call of the library that fails throws an exception and changes nothing. -/
theorem ends_guarded {pqxx : Nat → Pqxx} {following : Program Thrown PostgreSQLClient Unit}
    (hconnection : s.connection = true) :
    Ends (guarded pqxx following) Q E s ↔
      match (pqxx s.steps).exception with
      | none => Ends following Q E { s with steps := s.steps + 1 }
      | some e => E (.exception e) { s with steps := s.steps + 1 } := by
  unfold guarded
  rw [ends_bind, ends_next]
  cases pqxx s.steps with
  | ok => exact Iff.rfl
  | generic => exact Iff.rfl
  | failure sqlError isOpen =>
    show Ends (handleDatabaseException sqlError isOpen) _ _ _ ↔ _
    unfold handleDatabaseException
    rw [ends_bind, ends_act, ends_throw]
    simp only [hconnection, true_and]
    exact Iff.rfl

theorem ends_executeUpdate {steps : Nat} :
    Ends (executeUpdate o) Q E ⟨true, true, steps⟩ ↔
      match (o.pqxx steps).exception with
      | none => Q () ⟨true, true, steps + 1⟩
      | some e => E (.exception e) ⟨true, true, steps + 1⟩ := by
  unfold executeUpdate
  rw [ends_bind, ends_assert rfl, ends_guarded rfl]
  exact Iff.rfl

end

/-- The program ends as it is said: with so many calls made, or with the exception. -/
def EndsAs {α : Type} (x : Except Cause Nat) (transaction : Bool)
    (c : Program Thrown (Frame File PostgreSQLClient) α) (frame : Frame File PostgreSQLClient) :
    Prop :=
  Ends c (fun _ t => ∃ steps, x = .ok steps ∧ t.state = ⟨true, transaction, steps⟩)
    (fun thrown t => ∃ cause, x = .error cause ∧ thrown = .exception cause.exception ∧
      t.state = ⟨true, cause.transaction, cause.steps⟩) frame

section
variable {α β : Type} {x : Except Cause Nat} {transaction transaction' : Bool}
  {frame : Frame File PostgreSQLClient}

theorem EndsAs.bind {g : Nat → Except Cause Nat}
    {c : Program Thrown (Frame File PostgreSQLClient) α}
    {f : α → Program Thrown (Frame File PostgreSQLClient) β} (h : EndsAs x transaction c frame)
    (hf : ∀ a steps t, t.state = ⟨true, transaction, steps⟩ →
      EndsAs (g steps) transaction' (f a) t) :
    EndsAs (x >>= g) transaction' (c >>= f) frame := by
  unfold EndsAs
  rw [ends_bind]
  refine h.mono ?_ ?_
  · rintro a t ⟨steps, rfl, ht⟩
    exact hf a steps t ht
  · rintro thrown t ⟨cause, rfl, hthrown, ht⟩
    exact ⟨cause, rfl, hthrown, ht⟩

/-- What follows leaves the client as it is. -/
theorem EndsAs.andThen {c : Program Thrown (Frame File PostgreSQLClient) α}
    {rest : Program Thrown (Frame File PostgreSQLClient) β} (h : EndsAs x transaction c frame)
    (hrest : ∀ t, Ends rest (fun _ u => u.state = t.state) (fun _ _ => False) t) :
    EndsAs x transaction (c >>= fun _ => rest) frame := by
  unfold EndsAs
  rw [ends_bind]
  refine h.mono ?_ (fun _ _ he => he)
  rintro _ t ⟨steps, hx, ht⟩
  exact (hrest t).mono (fun _ u hu => ⟨steps, hx, hu.trans ht⟩) (fun _ _ hno => hno.elim)

/-- A call that throws the exception given and does no more than counting, or goes on. -/
theorem endsAs_call {c : Program Thrown PostgreSQLClient Unit} {e : Option ResultsException}
    {before : Bool} {steps : Nat} (hframe : frame.state = ⟨true, before, steps⟩)
    (hc : ∀ Q E, Ends c Q E ⟨true, before, steps⟩ ↔
      match e with
      | none => Q () ⟨true, transaction, steps + 1⟩
      | some e => E (.exception e) ⟨true, before, steps + 1⟩) :
    EndsAs (after e steps before) transaction (call c) frame := by
  unfold EndsAs after
  rw [ends_call, hframe, hc]
  cases e with
  | none => exact ⟨steps + 1, rfl, rfl⟩
  | some e => exact ⟨⟨e, steps + 1, before⟩, rfl, rfl, rfl⟩

variable {steps : Nat}

theorem startTransaction_endsAs (h : frame.state = ⟨true, false, steps⟩) :
    EndsAs (after (o.pqxx steps).exception steps false) true (call (startTransaction o)) frame := by
  refine endsAs_call h fun Q E => ?_
  unfold startTransaction
  rw [ends_bind, ends_assert rfl, ends_bind, ends_act, if_pos rfl, ends_bind, ends_guarded rfl]
  exact Iff.rfl

theorem reading_endsAs (outcome : Nat → Option ResultsException)
    (h : frame.state = ⟨true, true, steps⟩) :
    EndsAs (after (outcome steps) steps true) true (call (reading outcome)) frame :=
  endsAs_call h fun _ _ => ends_reading

theorem endTransaction_endsAs (commit : Bool) (h : frame.state = ⟨true, true, steps⟩) :
    EndsAs (after ((if commit then o.pqxx else o.abort) steps).exception steps true) false
      (call (endTransaction o commit)) frame := by
  refine endsAs_call h fun Q E => ?_
  unfold endTransaction
  rw [ends_bind, ends_act, if_pos rfl, ends_guarded rfl]
  exact Iff.rfl

end

/-! ## The `try` block -/

theorem parseFiles_endsAs (files : List File) {frame : Frame File PostgreSQLClient} {steps : Nat}
    (h : frame.state = ⟨true, true, steps⟩) :
    EndsAs (parsing o files steps) true (parseFiles (calls o) files) frame := by
  induction files generalizing frame steps with
  | nil => exact ⟨steps, rfl, h⟩
  | cons f fs ih =>
    unfold parseFiles setDataFile parsing EndsAs
    rw [ends_bind, ends_act, ends_bind, ends_call]
    show Ends (next o.stopRequested) _ _ frame.state
    rw [ends_next, h]
    dsimp only
    split
    · exact ⟨steps + 1, rfl, rfl⟩
    · refine (reading_endsAs (fun steps => o.processFile steps f) ?_).bind fun _ _ _ ht => ih ht
      rfl

/-- The files are finished without effect on the client. -/
theorem finishFiles_ends (files : List File) (t : Frame File PostgreSQLClient) :
    Ends (do
        forEach (fun f => call ((calls o).finishedFile (some f) true)) files
        return true)
      (fun _ u => u.state = t.state) (fun _ _ => False) t := by
  rw [ends_bind]
  refine ends_forEach (I := fun u : Frame File PostgreSQLClient => u.state = t.state)
    (fun f _ u hu => ?_) rfl
  rw [ends_call]
  exact hu

/-- From `finishParsing` on: the commit or the rollback that it decides about, and the files. -/
theorem ending_endsAs (files : List File) {frame : Frame File PostgreSQLClient} {steps : Nat}
    (h : frame.state = ⟨true, true, steps⟩) :
    EndsAs (ending o steps) false
      (do
        let executed ← call (calls o).finishParsing
        endImport (calls o) executed
        forEach (fun f => call ((calls o).finishedFile (some f) true)) files
        return true) frame := by
  unfold EndsAs ending
  rw [ends_bind, ends_call]
  show Ends (finishParsing o) _ _ frame.state
  unfold finishParsing
  rw [ends_bind, ends_next, h]
  dsimp only
  split
  · rw [ends_bind, ends_executeUpdate]
    unfold after
    cases (o.pqxx (steps + 1)).exception with
    | some e => exact ⟨_, rfl, rfl, rfl⟩
    | none => exact (endTransaction_endsAs o true rfl).andThen (finishFiles_ends o files)
  · exact (endTransaction_endsAs o false rfl).andThen (finishFiles_ends o files)

/-- The `try` block, with a connection. -/
theorem importAttempt_endsAs (files : List File) {frame : Frame File PostgreSQLClient}
    {steps : Nat} (h : frame.state = ⟨true, false, steps⟩) :
    EndsAs (tryBlock o true steps files) false (importAttempt (calls o) files) frame :=
  (startTransaction_endsAs o h).bind fun _ _ _ ht =>
    (reading_endsAs o.beginParsing ht).bind fun _ _ _ ht =>
      (parseFiles_endsAs o files ht).bind fun _ _ _ ht => ending_endsAs o files ht

/-- Without a connection there is no transaction to be started. -/
theorem importAttempt_disconnected (files : List File) {frame : Frame File PostgreSQLClient}
    {steps : Nat} (h : frame.state = ⟨false, false, steps⟩) :
    Ends (importAttempt (calls o) files) (fun _ _ => False)
      (fun thrown t => thrown = .exception .database ∧ t.state = ⟨false, false, steps⟩) frame := by
  unfold importAttempt
  rw [ends_bind, ends_call]
  show Ends (startTransaction o) _ _ frame.state
  unfold startTransaction
  rw [h, ends_bind, ends_assert rfl, ends_bind, ends_act]
  exact ⟨rfl, rfl⟩

/-! ## The handlers -/

/-- There is no transaction. -/
def Free (t : Frame File PostgreSQLClient) : Prop := t.state.transaction = false

theorem reconnect_ends (s : PostgreSQLClient) :
    Ends (reconnect o) (fun _ t => t.transaction = false ∧ o.connects s.steps ≠ .generic)
      (fun thrown _ => thrown = .exception .other ∧ o.connects s.steps = .generic) s := by
  unfold reconnect close setTransaction setConnection
  rw [ends_bind, ends_bind, ends_act, ends_act, ends_bind]
  unfold openConnection
  rw [ends_bind, ends_assert rfl, ends_bind, ends_next]
  dsimp only
  cases hconnects : o.connects s.steps with
  | ok => exact ⟨rfl, Pqxx.noConfusion⟩
  | failure sqlError isOpen => exact ⟨rfl, Pqxx.noConfusion⟩
  | generic => exact ⟨rfl, rfl⟩

theorem reconnect_free (t : Frame File PostgreSQLClient) :
    Ends (Handlers.reconnect (calls o))
      (fun _ u => Free u ∧ o.connects t.state.steps ≠ .generic)
      (fun thrown _ => thrown = .exception .other ∧ o.connects t.state.steps = .generic) t := by
  unfold Handlers.reconnect
  rw [ends_bind, ends_call]
  exact (reconnect_ends o t.state).mono (fun _ _ h => h) (fun _ _ h => h)

theorem finishBad_free (bad : Bool) {t : Frame File PostgreSQLClient} (h : Free t) :
    Ends (finishBad (calls o) bad) (fun _ u => Free u) (fun _ _ => False) t := by
  unfold finishBad getDataFile
  rw [ends_bind, ends_act]
  split
  · exact h
  · exact h

/-- Of either class, the exception leads to a reconnect. -/
theorem handleDatabaseException_ends (sqlError isOpen : Bool) (s : PostgreSQLClient) :
    Ends (handleDatabaseException sqlError isOpen) (fun _ _ => False)
      (fun thrown t => (∃ e, thrown = .exception e ∧ e.isDatabaseException = true) ∧ t = s) s := by
  unfold handleDatabaseException
  rw [ends_bind, ends_act, ends_throw]
  refine ⟨⟨_, rfl, ?_⟩, rfl⟩
  split
  · rfl
  · rfl

/-- A handler that rolls back. -/
theorem rollbackHandler_ends (bad : Bool) (t : Frame File PostgreSQLClient) :
    Ends (rollbackHandler (calls o) bad)
      (fun _ u => Free u ∧ ¬ (t.state.transaction = true ∧ RollbackEscapes o t.state.steps))
      (fun thrown _ => thrown = .exception .other ∧
        t.state.transaction = true ∧ RollbackEscapes o t.state.steps) t := by
  unfold rollbackHandler
  rw [ends_tryCatch, ends_bind, ends_call]
  show Ends (endTransaction o false) _ _ t.state
  unfold endTransaction
  rw [ends_bind, ends_act]
  cases htransaction : t.state.transaction with
  | false =>
    rw [if_neg Bool.false_ne_true, ends_assert rfl]
    refine (finishBad_free o bad (t := t) htransaction).mono (fun _ u hu => ⟨hu, ?_⟩)
      (fun _ _ hno => hno.elim)
    rintro ⟨hno, -⟩
    cases hno
  | true =>
    rw [if_pos rfl]
    unfold guarded
    rw [if_neg Bool.false_ne_true, ends_bind, ends_next]
    dsimp only
    cases habort : o.abort t.state.steps with
    | ok =>
      refine (finishBad_free o bad (t := ⟨t.dataFile, t.state.connection, false, _⟩) rfl).mono
        (fun _ u hu => ⟨hu, ?_⟩) (fun _ _ hno => hno.elim)
      rintro ⟨-, hgeneric | ⟨⟨_, _, hfailure⟩, -⟩⟩
      · exact Pqxx.noConfusion (habort.symm.trans hgeneric)
      · exact Pqxx.noConfusion (habort.symm.trans hfailure)
    | generic => exact ⟨rfl, rfl, Or.inl habort⟩
    | failure sqlError isOpen =>
      have hescapes : RollbackEscapes o t.state.steps ↔
          o.connects (t.state.steps + 1) = .generic := by
        unfold RollbackEscapes
        rw [habort]
        simp
      refine (handleDatabaseException_ends sqlError isOpen _).mono (fun _ _ hno => hno.elim) ?_
      rintro thrown u ⟨⟨e, rfl, hdatabase⟩, rfl⟩
      show Ends (if e.isDatabaseException then Handlers.reconnect (calls o)
        else throw (.exception e)) _ _ _
      rw [if_pos hdatabase, hescapes]
      exact (reconnect_free o _).mono (fun _ _ hu => ⟨hu.1, fun hno => hu.2 hno.2⟩)
        (fun _ _ hu => ⟨hu.1, rfl, hu.2⟩)

/-- What a handler does with the exception of the `try` block. -/
theorem handle_ends (fastMode : Bool) (e : ResultsException) (t : Frame File PostgreSQLClient) :
    Ends (handle (calls o) fastMode (.exception e))
      (fun _ u => Free u ∧ ¬ if e = .database then o.connects t.state.steps = .generic
        else t.state.transaction = true ∧ RollbackEscapes o t.state.steps)
      (fun thrown _ => thrown = .exception .other ∧
        if e = .database then o.connects t.state.steps = .generic
        else t.state.transaction = true ∧ RollbackEscapes o t.state.steps) t := by
  cases e with
  | readerDataError =>
    unfold handle getDataFile
    rw [ends_bind, ends_act]
    exact rollbackHandler_ends o _ t
  | databaseDataError => exact rollbackHandler_ends o _ t
  | database => exact reconnect_free o t
  | other => exact rollbackHandler_ends o _ t

/-! ## One import -/

/-- How a call of `importFiles` ends: without a transaction, or with an exception that escapes. -/
theorem importFiles_ends (files : List File) {frame : Frame File PostgreSQLClient}
    (h : Free frame) :
    Ends (importFiles (calls o) files) (fun _ t => Free t ∧ ¬ Escapes o frame.state files)
      (fun thrown _ => thrown = .exception .other ∧ Escapes o frame.state files) frame := by
  have hhandled : ∀ cause t, t.state.steps = cause.steps → t.state.transaction = cause.transaction →
      tryBlock o frame.state.connection frame.state.steps files = .error cause →
      Ends (handle (calls o) (decide (files.length > 1)) (.exception cause.exception))
        (fun _ u => Free u ∧ ¬ Escapes o frame.state files)
        (fun thrown _ => thrown = .exception .other ∧ Escapes o frame.state files) t := by
    intro cause t hsteps htransaction hcause
    have hiff : Escapes o frame.state files ↔
        if cause.exception = .database then o.connects t.state.steps = .generic
        else t.state.transaction = true ∧ RollbackEscapes o t.state.steps := by
      unfold Escapes
      rw [hcause, hsteps, htransaction]
      constructor
      · rintro ⟨cause', heq, h⟩
        cases heq
        exact h
      · exact fun h => ⟨cause, rfl, h⟩
    rw [hiff]
    exact handle_ends o _ cause.exception t
  have hno : ∀ steps, tryBlock o frame.state.connection frame.state.steps files = .ok steps →
      ¬ Escapes o frame.state files := by
    rintro steps hok ⟨cause, hcause, -⟩
    rw [hok] at hcause
    cases hcause
  unfold importFiles setDataFile
  rw [ends_bind, ends_act, ends_tryCatch]
  obtain ⟨file, connection, transaction, steps⟩ := frame
  obtain rfl : transaction = false := h
  cases connection with
  | true =>
    have hframe : (⟨none, true, false, steps⟩ : Frame File PostgreSQLClient).state =
        ⟨true, false, steps⟩ := rfl
    refine (importAttempt_endsAs o files hframe).mono ?_ ?_
    · rintro _ t ⟨steps', hok, ht⟩
      exact ⟨congrArg PostgreSQLClient.transaction ht, hno steps' hok⟩
    · rintro thrown t ⟨cause, hcause, rfl, ht⟩
      exact hhandled cause t (congrArg PostgreSQLClient.steps ht)
        (congrArg PostgreSQLClient.transaction ht) hcause
  | false =>
    have hframe : (⟨none, false, false, steps⟩ : Frame File PostgreSQLClient).state =
        ⟨false, false, steps⟩ := rfl
    refine (importAttempt_disconnected o files hframe).mono (fun _ _ hno => hno.elim) ?_
    rintro thrown t ⟨rfl, ht⟩
    exact hhandled ⟨.database, steps, false⟩ t (congrArg PostgreSQLClient.steps ht)
      (congrArg PostgreSQLClient.transaction ht) rfl

/-! ## The imports of a worker -/

/-- A call of `importFiles`, with what escapes from it. -/
def importStep (frame : Frame File PostgreSQLClient) (files : List File) :
    Except Thrown (Frame File PostgreSQLClient) :=
  match outcome (importFiles (calls o) files) frame with
  | (.ok _, t) => .ok t
  | (.error thrown, _) => .error thrown

theorem importStep_ends (files : List File) {frame : Frame File PostgreSQLClient}
    (h : Free frame) :
    (∀ t, importStep o frame files = .ok t → Free t ∧ ¬ Escapes o frame.state files) ∧
      ∀ thrown, importStep o frame files = .error thrown →
        thrown = .exception .other ∧ Escapes o frame.state files := by
  have hends := importFiles_ends o files h
  unfold Ends at hends
  unfold importStep
  rcases hout : outcome (importFiles (calls o) files) frame with ⟨result, t⟩
  rw [hout] at hends
  cases result with
  | ok returned => exact ⟨fun u hu => Except.ok.inj hu ▸ hends, fun _ hno => by cases hno⟩
  | error thrown => exact ⟨fun _ hno => (by cases hno), fun e he => Except.error.inj he ▸ hends⟩

/-- **Transactions.**  Whatever fails in the imports of a worker, there is no transaction behind them
when they have returned, no assertion fails, and they have all returned if and only if no exception
escapes one of them. -/
theorem importFiles_transaction (o : Choices File) (dataFile : Option File) (connection : Bool)
    (steps : Nat) (lists : List (List File)) :
    let start : Frame File PostgreSQLClient := ⟨dataFile, connection, false, steps⟩
    (∀ t, Run.exec (importStep o) start lists = .ok t → t.state.transaction = false) ∧
    (∀ thrown, Run.exec (importStep o) start lists = .error thrown →
      thrown = .exception .other) ∧
    ((∃ t, Run.exec (importStep o) start lists = .ok t) ↔
      Run.Meets (importStep o) (fun frame files => ¬ Escapes o frame.state files) start lists) := by
  intro start
  have hfree : Free start := rfl
  have hkeep : ∀ (frame : Frame File PostgreSQLClient) files t, Free frame → True →
      importStep o frame files = .ok t → Free t :=
    fun frame files t h _ ht => ((importStep_ends o files h).1 t ht).1
  have hall := Run.meets_true (importStep o) start lists
  refine ⟨fun t ht => Run.exec_invariant hkeep hfree hall ht, fun thrown hthrown => ?_, ?_⟩
  · obtain ⟨frame, files, h, -, he⟩ := Run.exec_error hkeep hfree hall hthrown
    exact ((importStep_ends o files h).2 thrown he).1
  constructor
  · rintro ⟨t, ht⟩
    refine (Run.meets_congr (fun frame files u h hu => ?_) hfree ht).mp hall
    exact ⟨(true_iff _).mpr ((importStep_ends o files h).1 u hu).2, fun _ => hkeep _ _ u h trivial hu⟩
  · intro hmeets
    have hprogress : ∀ (frame : Frame File PostgreSQLClient) files, Free frame →
        ¬ Escapes o frame.state files → ∃ t, importStep o frame files = .ok t ∧ Free t := by
      intro frame files h hescapes
      cases hstep : importStep o frame files with
      | ok t => exact ⟨t, rfl, hkeep frame files t h trivial hstep⟩
      | error thrown => exact absurd ((importStep_ends o files h).2 thrown hstep).2 hescapes
    obtain ⟨t, ht, -⟩ := Run.exec_total hprogress hfree hmeets
    exact ⟨t, ht⟩

/-! ## A rollback that fails -/

/-- The second line of the file is wrong, and `abort` throws an exception that is no
`pqxx::failure`. -/
def brokenAbort : Choices String where
  pqxx := fun _ => .ok
  abort := fun _ => .generic
  connects := fun _ => .ok
  beginParsing := fun _ => none
  stopRequested := fun _ => false
  processFile := fun _ _ => some .readerDataError
  rows := fun _ => true

/-- The exception leaves `importFiles`, with the transaction still there. -/
theorem brokenAbort_escapes :
    importStep brokenAbort ⟨none, true, false, 0⟩ ["Ping-1.hpct"] =
        .error (.exception .other) ∧
      (outcome (importFiles (calls brokenAbort) ["Ping-1.hpct"]) ⟨none, true, false, 0⟩).2.state =
        ⟨true, true, 5⟩ ∧
      ¬ ∃ t, Run.exec (importStep brokenAbort) ⟨none, true, false, 0⟩ [["Ping-1.hpct"]] = .ok t :=
  ⟨rfl, rfl, fun ⟨_, ht⟩ => by cases ht⟩

end PostgreSQLClient

end HiPerConTracer.Importer.Handlers
