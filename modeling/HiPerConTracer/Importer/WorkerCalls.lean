import HiPerConTracer.Importer.Handlers

/-!
# The calls of a worker (`worker.cc`)

`importFiles` of the worker is the program of `Handlers.importFiles`, with calls that act on the state
of the worker and throw what its environment says:

    the program on `workerCalls` ends as `importFiles` does              (importFiles_program)
-/

namespace HiPerConTracer.Importer.Handlers
open Throwing

variable {File Entry Row : Type}

/-- A step of the worker as a program. -/
def stepped (f : State File Entry Row → State File Entry Row × Option ResultsException) :
    Program Thrown (State File Entry Row) Unit := do
  let e ← act fun s => ((f s).2, (f s).1)
  match e with
  | none => pure ()
  | some e => throw (.exception e)

theorem ends_stepped {f : State File Entry Row → State File Entry Row × Option ResultsException}
    {Q : Unit → State File Entry Row → Prop} {E : Thrown → State File Entry Row → Prop}
    {s : State File Entry Row} :
    Ends (stepped f) Q E s ↔
      match f s with
      | (t, none) => Q () t
      | (t, some e) => E (.exception e) t := by
  unfold stepped
  rw [ends_bind, ends_act]
  rcases f s with ⟨t, e⟩
  cases e with
  | none => exact Iff.rfl
  | some e => exact Iff.rfl

variable (env : Environment File Row)

def workerFinishParsing : Program Thrown (State File Entry Row) Bool := do
  let result ← act fun s => ((finishParsing env s).2, (finishParsing env s).1)
  match result with
  | .ok executed => pure executed
  | .error e => throw (.exception e)

variable [DecidableEq File] [LinearOrder Entry] (ops : FileEntry File Entry) (cfg : Configuration)

/-- What `importFiles` calls, on the state of the worker.  The clock goes on with each file and at
the end of a reconnect. -/
def workerCalls : Calls File (State File Entry Row) where
  startTransaction := stepped fun s =>
    match env.startTransaction s.clock with
    | some e => (s, some e)
    | none => ({ s with transaction := some [] }, none)
  beginParsing := stepped fun s =>
    match env.beginParsing s.clock with
    | some e => (s, some e)
    | none => ({ s with statement := [], rows := 0 }.tick, none)
  stopRequested := act fun s => (env.stopRequested s.clock, s)
  processFile := fun f => stepped fun s =>
    ((processFile env s f).1.tick, (processFile env s f).2)
  finishParsing := workerFinishParsing env
  commit := stepped (commit env)
  rollback := stepped (Importer.rollback env)
  finishedFile := fun f success => act fun s => ((), finishedFile env ops cfg s f success)
  reconnect := stepped fun s =>
    match env.reconnect s.clock with
    | none => ({ s with transaction := none }.tick, none)
    | some e => (s, some e)

/-! ## The parts of the program -/

theorem parseFiles_program (files : List File) (s : State File Entry Row) (dataFile : Option File) :
    Ends (parseFiles (workerCalls env ops cfg) files)
      (fun _ t => Importer.parseFiles env s dataFile files = (t.state, t.dataFile, none))
      (fun thrown t => ∃ e, thrown = .exception e ∧
        Importer.parseFiles env s dataFile files = (t.state, t.dataFile, some e)) ⟨dataFile, s⟩ := by
  induction files generalizing s dataFile with
  | nil => exact rfl
  | cons f fs ih =>
    unfold parseFiles setDataFile Importer.parseFiles
    rw [ends_bind, ends_act, ends_bind, ends_call]
    show Ends (act _) _ _ s
    rw [ends_act]
    dsimp only
    split
    · exact rfl
    · rw [ends_bind, ends_call]
      show Ends (stepped _) _ _ s
      rw [ends_stepped]
      rcases processFile env s f with ⟨t, e⟩
      cases e with
      | none => exact ih t.tick (some f)
      | some e => exact ⟨e, rfl, rfl⟩

/-- The disposal loop. -/
theorem finishFiles_program (files : List File) (frame : Frame File (State File Entry Row)) :
    Ends (do
        forEach (fun f => call ((workerCalls env ops cfg).finishedFile (some f) true)) files
        return true)
      (fun returned t => returned = true ∧ t.state = finishFiles env ops cfg frame.state files)
      (fun _ _ => False) frame := by
  induction files generalizing frame with
  | nil => exact ⟨rfl, rfl⟩
  | cons f fs ih =>
    unfold forEach
    rw [ends_bind, ends_bind, ends_call]
    show Ends (act _) _ _ frame.state
    rw [ends_act]
    have h := ih { frame with state := finishedFile env ops cfg frame.state (some f) true }
    rw [ends_bind] at h
    exact h

/-- How the `try` block ends. -/
theorem importAttempt_program (files : List File) (s : State File Entry Row) :
    Ends (importAttempt (workerCalls env ops cfg) files)
      (fun returned t => returned = true ∧ ∃ u last, Importer.importAttempt env s files =
        (u, last, none) ∧ t.state = finishFiles env ops cfg u files)
      (fun thrown t => ∃ e, thrown = .exception e ∧
        Importer.importAttempt env s files = (t.state, t.dataFile, some e)) ⟨none, s⟩ := by
  unfold importAttempt Importer.importAttempt begin
  rw [ends_bind, ends_call]
  show Ends (stepped _) _ _ s
  rw [ends_stepped]
  cases hstart : env.startTransaction s.clock with
  | some e => exact ⟨e, rfl, rfl⟩
  | none =>
    dsimp only
    rw [ends_bind, ends_call]
    show Ends (stepped _) _ _ _
    rw [ends_stepped]
    dsimp only
    cases hbegin : env.beginParsing s.clock with
    | some e => exact ⟨e, rfl, rfl⟩
    | none =>
      dsimp only
      rw [ends_bind]
      refine (parseFiles_program env ops cfg files _ none).mono ?_ ?_
      · intro _ t ht
        rw [ht]
        dsimp only
        rw [ends_bind, ends_call]
        show Ends (workerFinishParsing env) _ _ t.state
        unfold workerFinishParsing
        rw [ends_bind, ends_act]
        rcases finishParsing env t.state with ⟨u, result⟩
        cases result with
        | error e => exact ⟨e, rfl, rfl⟩
        | ok executed =>
          show Ends (endImport (workerCalls env ops cfg) executed >>= _) _ _ _
          rw [ends_bind]
          unfold endImport
          cases executed with
          | true =>
            dsimp only
            rw [if_pos rfl, ends_call]
            show Ends (stepped (commit env)) _ _ u
            rw [ends_stepped]
            rcases commit env u with ⟨v, e⟩
            cases e with
            | some e => exact ⟨e, rfl, rfl⟩
            | none =>
              refine (finishFiles_program env ops cfg files ⟨t.dataFile, v⟩).mono ?_
                (fun _ _ hno => hno.elim)
              exact fun _ _ hw => ⟨hw.1, v, t.dataFile, rfl, hw.2⟩
          | false =>
            dsimp only
            rw [if_neg Bool.false_ne_true, ends_call]
            show Ends (stepped (Importer.rollback env)) _ _ u
            rw [ends_stepped]
            rcases Importer.rollback env u with ⟨v, e⟩
            cases e with
            | some e => exact ⟨e, rfl, rfl⟩
            | none =>
              refine (finishFiles_program env ops cfg files ⟨t.dataFile, v⟩).mono ?_
                (fun _ _ hno => hno.elim)
              exact fun _ _ hw => ⟨hw.1, v, t.dataFile, rfl, hw.2⟩
      · rintro thrown t ⟨e, rfl, ht⟩
        rw [ht]
        exact ⟨e, rfl, rfl⟩

/-- The end of the call after an exception, as the worker has it. -/
def EndsAsWorker (r : State File Entry Row × Return)
    (c : Program Thrown (Frame File (State File Entry Row)) Bool)
    (frame : Frame File (State File Entry Row)) : Prop :=
  Ends c (fun returned t => r = (t.state, .returned returned))
    (fun thrown t => ∃ e, thrown = .exception e ∧ r = (t.state, .thrown e)) frame

theorem reconnect_program (t : Frame File (State File Entry Row)) :
    EndsAsWorker (Importer.reconnect env t.state) (reconnect (workerCalls env ops cfg)) t := by
  unfold EndsAsWorker reconnect Importer.reconnect
  rw [ends_bind, ends_call]
  show Ends (stepped _) _ _ t.state
  rw [ends_stepped]
  cases env.reconnect t.state.clock with
  | none => exact rfl
  | some e => exact ⟨e, rfl, rfl⟩

theorem rollbackHandler_program (bad : Bool) (t : Frame File (State File Entry Row)) :
    EndsAsWorker (Importer.rollbackHandler env ops cfg t.state bad t.dataFile)
      (rollbackHandler (workerCalls env ops cfg) bad) t := by
  unfold EndsAsWorker rollbackHandler Importer.rollbackHandler
  rw [ends_tryCatch, ends_bind, ends_call]
  show Ends (stepped (Importer.rollback env)) _ _ t.state
  rw [ends_stepped]
  rcases Importer.rollback env t.state with ⟨u, e⟩
  cases e with
  | none =>
    dsimp only
    unfold finishBad getDataFile
    rw [ends_bind, ends_act]
    cases bad with
    | false => exact rfl
    | true => exact rfl
  | some e =>
    show Ends (if e.isDatabaseException then reconnect (workerCalls env ops cfg)
      else throw (.exception e)) _ _ _
    dsimp only
    split
    · exact reconnect_program env ops cfg ⟨t.dataFile, u⟩
    · exact ⟨e, rfl, rfl⟩

/-- **One call.**  The program on the calls of a worker returns what `importFiles` of the worker
returns, or throws what it throws, and ends in the same state. -/
theorem importFiles_program (files : List File) (s : State File Entry Row)
    (dataFile : Option File) :
    EndsAsWorker (Importer.importFiles env ops cfg s files)
      (importFiles (workerCalls env ops cfg) files) ⟨dataFile, s.log .importFiles⟩ := by
  unfold EndsAsWorker importFiles setDataFile Importer.importFiles
  rw [ends_bind, ends_act, ends_tryCatch]
  refine (importAttempt_program env ops cfg files (s.log .importFiles)).mono ?_ ?_
  · rintro returned t ⟨rfl, u, last, hattempt, ht⟩
    rw [hattempt, ht]
  · rintro thrown t ⟨e, rfl, hattempt⟩
    rw [hattempt]
    have hslow : EndsAsWorker
        (Importer.rollbackHandler env ops cfg t.state (decide ¬ files.length > 1) t.dataFile)
        (rollbackHandler (workerCalls env ops cfg)
          (decide ¬ decide (files.length > 1) = true)) t := by
      simp only [decide_eq_true_eq]
      exact rollbackHandler_program env ops cfg _ t
    cases e with
    | readerDataError =>
      show Ends (handle _ _ _) _ _ _
      unfold handle getDataFile
      rw [ends_bind, ends_act]
      simp only [decide_eq_true_eq]
      exact rollbackHandler_program env ops cfg _ t
    | databaseDataError => exact hslow
    | database => exact reconnect_program env ops cfg t
    | other => exact hslow

end HiPerConTracer.Importer.Handlers
