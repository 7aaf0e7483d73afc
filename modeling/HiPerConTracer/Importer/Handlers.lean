import HiPerConTracer.Importer.Worker
import HiPerConTracer.Lib.Throwing

/-!
# The exception handlers of `importFiles` (`worker.cc`)

`importFiles` with what it calls as parameters, each of which may throw at any of its calls.  The
local variable `dataFile` is empty until the first file is reached.  A list of files is disposed of
rightly if `finishedFile` is only called for its files, once for each, and for a bad file only in slow
mode and after a rollback:

    Disposed of rightly ↔ not (slow mode, a database data error or a generic error before the first
      file is reached, and a rollback that succeeds)                        (importFiles_disposed_iff)

Two of the three handlers that roll back do not look whether `dataFile` is empty.
-/

namespace HiPerConTracer.Importer.Handlers
open Throwing

/-- What ends a program early. -/
inductive Thrown where
  | exception (e : ResultsException)
  | assertion
deriving DecidableEq, Repr

/-- What `importFiles` calls. -/
structure Calls (File σ : Type) where
  startTransaction : Program Thrown σ Unit
  beginParsing : Program Thrown σ Unit
  stopRequested : Program Thrown σ Bool
  processFile : File → Program Thrown σ Unit
  finishParsing : Program Thrown σ Bool
  commit : Program Thrown σ Unit
  rollback : Program Thrown σ Unit
  finishedFile : Option File → Bool → Program Thrown σ Unit
  reconnect : Program Thrown σ Unit

/-- The local variable `dataFile`, none for the empty path, and the state of what is called. -/
structure Frame (File σ : Type) where
  dataFile : Option File
  state : σ

section
variable {File σ : Type}

/-! ## The program -/

def call {α : Type} (c : Program Thrown σ α) : Program Thrown (Frame File σ) α :=
  within Frame.state (fun s frame => { frame with state := s }) c

def setDataFile (file : Option File) : Program Thrown (Frame File σ) Unit :=
  act fun frame => ((), { frame with dataFile := file })

def getDataFile : Program Thrown (Frame File σ) (Option File) :=
  act fun frame => (frame.dataFile, frame)

variable (c : Calls File σ)

def parseFiles : List File → Program Thrown (Frame File σ) Unit
  | [] => pure ()
  | f :: fs => do
    setDataFile (some f)
    let stop ← call c.stopRequested
    if stop then pure ()
    else do
      call (c.processFile f)
      parseFiles fs

/-- Commit or rollback: whether there have been rows. -/
def endImport (executed : Bool) : Program Thrown (Frame File σ) Unit :=
  if executed then call c.commit else call c.rollback

/-- The `try` block. -/
def importAttempt (dataFileList : List File) : Program Thrown (Frame File σ) Bool := do
  call c.startTransaction
  call c.beginParsing
  parseFiles c dataFileList
  let executed ← call c.finishParsing
  endImport c executed
  forEach (fun dataFile => call (c.finishedFile (some dataFile) true)) dataFileList
  return true

/-- The end of `importFiles`. -/
def reconnect : Program Thrown (Frame File σ) Bool := do
  call c.reconnect
  return false

/-- The file set last is finished as bad. -/
def finishBad (bad : Bool) : Program Thrown (Frame File σ) Bool := do
  let dataFile ← getDataFile
  if bad then do
    call (c.finishedFile dataFile false)
    return false
  else return false

/-- The inner `catch` clause, for a broken connection. -/
def brokenConnection : Thrown → Program Thrown (Frame File σ) Bool
  | .exception e => if e.isDatabaseException then reconnect c else throw (.exception e)
  | .assertion => throw .assertion

/-- A handler that rolls back. -/
def rollbackHandler (bad : Bool) : Program Thrown (Frame File σ) Bool :=
  tryCatch (do
    call c.rollback
    finishBad c bad) (brokenConnection c)

/-- The `catch` clauses. -/
def handle (fastMode : Bool) : Thrown → Program Thrown (Frame File σ) Bool
  | .exception .readerDataError => do
    let dataFile ← getDataFile
    rollbackHandler c (¬ fastMode ∧ dataFile.isSome)
  | .exception .databaseDataError => rollbackHandler c (¬ fastMode)
  | .exception .database => reconnect c
  | .exception .other => rollbackHandler c (¬ fastMode)
  | .assertion => throw .assertion

def importFiles (dataFileList : List File) : Program Thrown (Frame File σ) Bool := do
  setDataFile none
  tryCatch (importAttempt c dataFileList) (handle c (decide (dataFileList.length > 1)))

end

/-! ## Calls that throw at will -/

/-- The outcome of each call, by the number of calls before it. -/
structure Outcomes (File : Type) where
  startTransaction : Nat → Option ResultsException
  beginParsing : Nat → Option ResultsException
  stopRequested : Nat → Bool
  processFile : Nat → File → Option ResultsException
  /-- Whether there have been rows. -/
  finishParsing : Nat → Except ResultsException Bool
  commit : Nat → Option ResultsException
  rollback : Nat → Option ResultsException
  reconnect : Nat → Option ResultsException

inductive Call (File : Type) where
  | rollback (succeeded : Bool)
  | finishedFile (dataFile : Option File) (success : Bool)
deriving DecidableEq, Repr

/-- The number of calls, and the rollbacks and finished files, the latest first. -/
structure History (File : Type) where
  steps : Nat
  calls : List (Call File)

namespace History
variable {File : Type}

def step (o : Nat → Option ResultsException) : Program Thrown (History File) Unit := do
  let steps ← act fun h => (h.steps, { h with steps := h.steps + 1 })
  match o steps with
  | none => pure ()
  | some e => throw (.exception e)

def log (entry : Call File) : Program Thrown (History File) Unit :=
  act fun h => ((), { h with calls := entry :: h.calls })

variable (o : Outcomes File)

def finishParsing : Program Thrown (History File) Bool := do
  let steps ← act fun h => (h.steps, { h with steps := h.steps + 1 })
  match o.finishParsing steps with
  | .ok executed => pure executed
  | .error e => throw (.exception e)

def rollback : Program Thrown (History File) Unit := do
  let steps ← act fun h => (h.steps, { h with steps := h.steps + 1 })
  log (.rollback (o.rollback steps).isNone)
  match o.rollback steps with
  | none => pure ()
  | some e => throw (.exception e)

/-- The name of the empty path does not match. -/
def finishedFile (dataFile : Option File) (success : Bool) : Program Thrown (History File) Unit := do
  log (.finishedFile dataFile success)
  if dataFile.isSome then pure () else throw .assertion

def outcomes : Calls File (History File) where
  startTransaction := step o.startTransaction
  beginParsing := step o.beginParsing
  stopRequested := act fun h => (o.stopRequested h.steps, { h with steps := h.steps + 1 })
  processFile := fun f => step fun steps => o.processFile steps f
  finishParsing := finishParsing o
  commit := step o.commit
  rollback := rollback o
  finishedFile := finishedFile
  reconnect := step o.reconnect

end History

/-! ## What the calls do -/

section
variable {File σ α : Type}

theorem ends_call {c : Program Thrown σ α} {Q : α → Frame File σ → Prop}
    {E : Thrown → Frame File σ → Prop} {frame : Frame File σ} :
    Ends (call c) Q E frame ↔ Ends c (fun a s => Q a { frame with state := s })
      (fun e s => E e { frame with state := s }) frame.state :=
  ends_within

theorem ends_step {o : Nat → Option ResultsException} {Q : Unit → History File → Prop}
    {E : Thrown → History File → Prop} {h : History File} :
    Ends (History.step o) Q E h ↔
      match o h.steps with
      | none => Q () { h with steps := h.steps + 1 }
      | some e => E (.exception e) { h with steps := h.steps + 1 } := by
  unfold History.step
  rw [ends_bind, ends_act]
  simp only
  cases o h.steps with
  | none => exact Iff.rfl
  | some e => exact Iff.rfl

theorem ends_finishParsing {o : Outcomes File} {Q : Bool → History File → Prop}
    {E : Thrown → History File → Prop} {h : History File} :
    Ends (History.finishParsing o) Q E h ↔
      match o.finishParsing h.steps with
      | .ok executed => Q executed { h with steps := h.steps + 1 }
      | .error e => E (.exception e) { h with steps := h.steps + 1 } := by
  unfold History.finishParsing
  rw [ends_bind, ends_act]
  simp only
  cases o.finishParsing h.steps with
  | ok executed => exact Iff.rfl
  | error e => exact Iff.rfl

theorem ends_rollback {o : Outcomes File} {Q : Unit → History File → Prop}
    {E : Thrown → History File → Prop} {h : History File} :
    Ends (History.rollback o) Q E h ↔
      match o.rollback h.steps with
      | none => Q () ⟨h.steps + 1, .rollback true :: h.calls⟩
      | some e => E (.exception e) ⟨h.steps + 1, .rollback false :: h.calls⟩ := by
  unfold History.rollback History.log
  rw [ends_bind, ends_act, ends_bind, ends_act]
  simp only
  cases o.rollback h.steps with
  | none => exact Iff.rfl
  | some e => exact Iff.rfl

theorem ends_finishedFile {dataFile : Option File} {success : Bool}
    {Q : Unit → History File → Prop} {E : Thrown → History File → Prop} {h : History File} :
    Ends (History.finishedFile dataFile success) Q E h ↔
      if dataFile.isSome then Q () { h with calls := .finishedFile dataFile success :: h.calls }
      else E .assertion { h with calls := .finishedFile dataFile success :: h.calls } := by
  unfold History.finishedFile History.log
  rw [ends_bind, ends_act]
  simp only
  cases dataFile.isSome with
  | true => exact Iff.rfl
  | false => exact Iff.rfl

end

/-! ## Disposition -/

section
variable {File : Type} [DecidableEq File]

/-- The file is finished in the call. -/
def Call.finishes (f : File) : Call File → Bool
  | .finishedFile dataFile _ => dataFile = some f
  | .rollback _ => false

/-- The calls made for a list of files, the latest first. -/
structure Disposed (files : List File) (returned : Bool) (new : List (Call File)) : Prop where
  members : ∀ dataFile success, .finishedFile dataFile success ∈ new →
    ∃ f ∈ files, dataFile = some f
  once : ∀ f, new.countP (Call.finishes f) ≤ files.count f
  bad : ∀ dataFile, .finishedFile dataFile false ∈ new → files.length ≤ 1 ∧
    ∃ rest, new = .finishedFile dataFile false :: .rollback true :: rest
  failed : returned = false → files.length > 1 →
    ∀ dataFile success, .finishedFile dataFile success ∉ new

/-- What a call of `importFiles` does with the files is right, and no assertion fails. -/
def DisposesRightly (o : Outcomes File) (files : List File) (frame : Frame File (History File)) :
    Prop :=
  Ends (importFiles (History.outcomes o) files)
    (fun returned t => ∃ new, t.state.calls = new ++ frame.state.calls ∧ Disposed files returned new)
    (fun thrown t => thrown ≠ .assertion ∧
      ∃ new, t.state.calls = new ++ frame.state.calls ∧ Disposed files false new) frame

/-- The exception thrown before the first file is reached, and the number of calls then. -/
def thrownFirst (o : Outcomes File) (steps : Nat) (files : List File) :
    Option (ResultsException × Nat) :=
  match o.startTransaction steps with
  | some e => some (e, steps + 1)
  | none =>
    match o.beginParsing (steps + 1) with
    | some e => some (e, steps + 2)
    | none =>
      if files ≠ [] then none
      else
        match o.finishParsing (steps + 2) with
        | .error e => some (e, steps + 3)
        | .ok executed =>
          match (if executed then o.commit (steps + 3) else o.rollback (steps + 3)) with
          | some e => some (e, steps + 4)
          | none => none

/-- In slow mode, such an exception of a class with an unguarded handler, and a rollback that
succeeds. -/
def MissesFile (o : Outcomes File) (steps : Nat) (files : List File) : Prop :=
  files.length ≤ 1 ∧ ∃ e k, thrownFirst o steps files = some (e, k) ∧
    (e = .databaseDataError ∨ e = .other) ∧ o.rollback k = none

/-! ## The `try` block -/

variable {o : Outcomes File}

omit [DecidableEq File] in
theorem parseFiles_ends (files : List File) (frame : Frame File (History File)) :
    Ends (parseFiles (History.outcomes o) files)
      (fun _ t => t.state.calls = frame.state.calls ∧ (files = [] → t = frame) ∧
        (files ≠ [] → ∃ f ∈ files, t.dataFile = some f))
      (fun thrown t => (∃ e, thrown = .exception e) ∧ t.state.calls = frame.state.calls ∧
        ∃ f ∈ files, t.dataFile = some f) frame := by
  induction files generalizing frame with
  | nil => exact ⟨rfl, fun _ => rfl, fun h => absurd rfl h⟩
  | cons f fs ih =>
    unfold parseFiles setDataFile
    rw [ends_bind, ends_act, ends_bind, ends_call]
    show Ends (act _) _ _ _
    rw [ends_act]
    dsimp only
    split
    · exact ⟨rfl, fun h => (List.cons_ne_nil f fs h).elim, fun _ => ⟨f, List.mem_cons_self, rfl⟩⟩
    · rw [ends_bind, ends_call]
      show Ends (History.step _) _ _ _
      rw [ends_step]
      dsimp only
      split
      · refine (ih _).mono ?_ ?_
        · rintro _ t ⟨hcalls, hsame, hreached⟩
          refine ⟨hcalls, fun h => (List.cons_ne_nil f fs h).elim, fun _ => ?_⟩
          by_cases hfs : fs = []
          · rw [hsame hfs]
            exact ⟨f, List.mem_cons_self, rfl⟩
          · obtain ⟨g, hg, hdata⟩ := hreached hfs
            exact ⟨g, List.mem_cons_of_mem _ hg, hdata⟩
        · rintro thrown t ⟨he, hcalls, g, hg, hdata⟩
          exact ⟨he, hcalls, g, List.mem_cons_of_mem _ hg, hdata⟩
      · next e _ => exact ⟨⟨e, rfl⟩, rfl, f, List.mem_cons_self, rfl⟩

omit [DecidableEq File] in
theorem finishFiles_ends (files : List File) (frame : Frame File (History File)) :
    Ends (forEach (fun f => call ((History.outcomes o).finishedFile (some f) true)) files)
      (fun _ t => t.state.calls =
        (files.map fun f => .finishedFile (some f) true).reverse ++ frame.state.calls)
      (fun _ _ => False) frame := by
  induction files generalizing frame with
  | nil => rfl
  | cons f fs ih =>
    unfold forEach
    rw [ends_bind, ends_call]
    show Ends (History.finishedFile _ _) _ _ _
    rw [ends_finishedFile, if_pos (show (some f).isSome = true from rfl)]
    refine (ih _).mono (fun _ t ht => ?_) (fun _ _ h => h)
    rw [ht, List.map_cons, List.reverse_cons, List.append_assoc]
    rfl

/-- Calls of `rollback` only. -/
def RollbacksOnly (rolled : List (Call File)) : Prop := ∀ c ∈ rolled, ∃ b, c = .rollback b

omit [DecidableEq File] in
theorem endImport_ends (executed : Bool) (frame : Frame File (History File)) :
    Ends (endImport (History.outcomes o) executed)
      (fun _ t => (∃ rolled, RollbacksOnly rolled ∧ t.state.calls = rolled ++ frame.state.calls) ∧
        (if executed then o.commit frame.state.steps else o.rollback frame.state.steps) = none)
      (fun thrown t => ∃ e, thrown = .exception e ∧
        (∃ rolled, RollbacksOnly rolled ∧ t.state.calls = rolled ++ frame.state.calls) ∧
        t.dataFile = frame.dataFile ∧ t.state.steps = frame.state.steps + 1 ∧
        (if executed then o.commit frame.state.steps else o.rollback frame.state.steps) = some e)
      frame := by
  unfold endImport
  cases executed with
  | true =>
    rw [if_pos rfl, ends_call]
    show Ends (History.step _) _ _ _
    rw [ends_step, if_pos rfl]
    cases o.commit frame.state.steps with
    | none => exact ⟨⟨[], List.forall_mem_nil _, rfl⟩, rfl⟩
    | some e => exact ⟨e, rfl, ⟨[], List.forall_mem_nil _, rfl⟩, rfl, rfl, rfl⟩
  | false =>
    rw [if_neg (by decide), ends_call]
    show Ends (History.rollback _) _ _ _
    rw [ends_rollback, if_neg (by decide)]
    cases o.rollback frame.state.steps with
    | none =>
      refine ⟨⟨[.rollback true], ?_, rfl⟩, rfl⟩
      exact List.forall_mem_singleton.mpr ⟨true, rfl⟩
    | some e =>
      refine ⟨e, rfl, ⟨[.rollback false], ?_, rfl⟩, rfl, rfl, rfl⟩
      exact List.forall_mem_singleton.mpr ⟨false, rfl⟩

omit [DecidableEq File] in
/-- How the `try` block ends: with all files finished, or with an exception.  Then `dataFile` is
empty if it has come before the first file. -/
theorem importAttempt_ends (files : List File) (h : History File) :
    Ends (importAttempt (History.outcomes o) files)
      (fun returned t => returned = true ∧ thrownFirst o h.steps files = none ∧
        ∃ rolled, RollbacksOnly rolled ∧ t.state.calls =
          (files.map fun f => .finishedFile (some f) true).reverse ++ rolled ++ h.calls)
      (fun thrown t => ∃ e, thrown = .exception e ∧
        (∃ rolled, RollbacksOnly rolled ∧ t.state.calls = rolled ++ h.calls) ∧
        (t.dataFile = none ∧ thrownFirst o h.steps files = some (e, t.state.steps) ∨
          thrownFirst o h.steps files = none ∧ ∃ f ∈ files, t.dataFile = some f))
      ⟨none, h⟩ := by
  have hnone : ∃ rolled : List (Call File), RollbacksOnly rolled ∧ h.calls = rolled ++ h.calls :=
    ⟨[], List.forall_mem_nil _, rfl⟩
  unfold importAttempt
  rw [ends_bind, ends_call]
  show Ends (History.step _) _ _ _
  rw [ends_step]
  cases hstart : o.startTransaction h.steps with
  | some e =>
    refine ⟨e, rfl, hnone, Or.inl ⟨rfl, ?_⟩⟩
    unfold thrownFirst
    rw [hstart]
  | none =>
    dsimp only
    rw [ends_bind, ends_call]
    show Ends (History.step _) _ _ _
    rw [ends_step]
    cases hbegin : o.beginParsing (h.steps + 1) with
    | some e =>
      refine ⟨e, rfl, hnone, Or.inl ⟨rfl, ?_⟩⟩
      unfold thrownFirst
      simp only [hstart, hbegin]
    | none =>
      have hreached : files ≠ [] → thrownFirst o h.steps files = none := by
        intro hfiles
        unfold thrownFirst
        simp only [hstart, hbegin, if_pos hfiles]
      rw [ends_bind]
      refine (parseFiles_ends files _).mono ?_ ?_
      · rintro _ t ⟨hcalls, hempty, hdata⟩
        rw [ends_bind, ends_call]
        show Ends (History.finishParsing _) _ _ _
        rw [ends_finishParsing]
        cases hfinish : o.finishParsing t.state.steps with
        | error e =>
          refine ⟨e, rfl, by rw [hcalls]; exact hnone, ?_⟩
          by_cases hfiles : files = []
          · rw [hempty hfiles] at hfinish ⊢
            refine Or.inl ⟨rfl, ?_⟩
            unfold thrownFirst
            simp only [hstart, hbegin, if_neg (fun hno : files ≠ [] => hno hfiles), hfinish]
          · exact Or.inr ⟨hreached hfiles, hdata hfiles⟩
        | ok executed =>
          dsimp only
          rw [ends_bind]
          refine (endImport_ends executed _).mono ?_ ?_
          · rintro _ u ⟨⟨rolled, hrolled, hu⟩, hend⟩
            rw [ends_bind]
            refine (finishFiles_ends files u).mono (fun _ v hv => ?_) (fun _ _ hno => hno.elim)
            refine ⟨rfl, ?_, rolled, hrolled, ?_⟩
            · by_cases hfiles : files = []
              · rw [hempty hfiles] at hfinish hend
                unfold thrownFirst
                simp only [hstart, hbegin, if_neg (fun hno : files ≠ [] => hno hfiles), hfinish]
                simp only at hend
                rw [hend]
              · exact hreached hfiles
            · rw [hv, hu, List.append_assoc]
              rw [hcalls]
          · rintro thrown u ⟨e, hthrown, ⟨rolled, hrolled, hu⟩, hfile, hsteps, hend⟩
            refine ⟨e, hthrown, ⟨rolled, hrolled, ?_⟩, ?_⟩
            · rw [hu]
              show rolled ++ t.state.calls = _
              rw [hcalls]
            · by_cases hfiles : files = []
              · rw [hempty hfiles] at hfinish hend hfile hsteps
                refine Or.inl ⟨hfile, ?_⟩
                unfold thrownFirst
                simp only [hstart, hbegin, if_neg (fun hno : files ≠ [] => hno hfiles), hfinish]
                simp only at hend hsteps
                rw [hend, hsteps]
              · rw [hfile]
                exact Or.inr ⟨hreached hfiles, hdata hfiles⟩
      · rintro thrown t ⟨⟨e, hthrown⟩, hcalls, f, hf, hdata⟩
        refine ⟨e, hthrown, by rw [hcalls]; exact hnone, Or.inr ⟨hreached ?_, f, hf, hdata⟩⟩
        rintro rfl
        cases hf

/-! ## The handlers -/

/-- The empty path is finished: the handler has an unguarded class, in slow mode, and the rollback
succeeds. -/
def FinishesEmptyPath (o : Outcomes File) (fastMode : Bool) (e : ResultsException)
    (t : Frame File (History File)) : Prop :=
  (e = .databaseDataError ∨ e = .other) ∧ fastMode = false ∧ t.dataFile = none ∧
    o.rollback t.state.steps = none

/-- The calls of a handler. -/
def Handled (fastMode : Bool) (t u : Frame File (History File)) : Prop :=
  (fastMode = false ∧ ∃ f, t.dataFile = some f ∧ u.state.calls =
      .finishedFile (some f) false :: .rollback true :: t.state.calls) ∨
    ∃ rolled, RollbacksOnly rolled ∧ u.state.calls = rolled ++ t.state.calls

omit [DecidableEq File] in
theorem handled_rollback {fastMode b : Bool} {t u : Frame File (History File)}
    (h : u.state.calls = .rollback b :: t.state.calls) : Handled fastMode t u :=
  Or.inr ⟨[.rollback b], List.forall_mem_singleton.mpr ⟨b, rfl⟩, h⟩

omit [DecidableEq File] in
theorem reconnect_ends (t : Frame File (History File)) :
    Ends (reconnect (History.outcomes o))
      (fun returned u => returned = false ∧ u.state.calls = t.state.calls)
      (fun thrown u => thrown ≠ .assertion ∧ u.state.calls = t.state.calls) t := by
  unfold reconnect
  rw [ends_bind, ends_call]
  show Ends (History.step _) _ _ _
  rw [ends_step]
  cases o.reconnect t.state.steps with
  | none => exact ⟨rfl, rfl⟩
  | some e => exact ⟨Thrown.noConfusion, rfl⟩

omit [DecidableEq File] in
theorem rollbackHandler_ends (fastMode bad : Bool) (hbad : bad = true → fastMode = false)
    (t : Frame File (History File)) :
    Ends (rollbackHandler (History.outcomes o) bad)
      (fun returned u => returned = false ∧ Handled fastMode t u ∧
        ¬ (bad = true ∧ t.dataFile = none ∧ o.rollback t.state.steps = none))
      (fun thrown u =>
        if bad = true ∧ t.dataFile = none ∧ o.rollback t.state.steps = none then
          thrown = .assertion
        else thrown ≠ .assertion ∧ Handled fastMode t u) t := by
  unfold rollbackHandler
  rw [ends_tryCatch, ends_bind, ends_call]
  show Ends (History.rollback _) _ _ _
  rw [ends_rollback]
  cases hroll : o.rollback t.state.steps with
  | some e =>
    have hno : ¬ (bad = true ∧ t.dataFile = none ∧ some e = none) := fun h => by cases h.2.2
    simp only [if_neg hno]
    show Ends (if e.isDatabaseException then reconnect (History.outcomes o)
      else throw (.exception e)) _ _ _
    split
    · refine (reconnect_ends _).mono ?_ ?_
      · rintro returned u ⟨hreturned, hu⟩
        exact ⟨hreturned, handled_rollback hu, hno⟩
      · rintro thrown u ⟨hthrown, hu⟩
        exact ⟨hthrown, handled_rollback hu⟩
    · exact ⟨Thrown.noConfusion, handled_rollback rfl⟩
  | none =>
    dsimp only
    unfold finishBad getDataFile
    rw [ends_bind, ends_act]
    cases bad with
    | false =>
      rw [if_neg (by decide), ends_pure]
      exact ⟨rfl, handled_rollback rfl, fun hno => by cases hno.1⟩
    | true =>
      rw [if_pos rfl, ends_bind, ends_call]
      show Ends (History.finishedFile _ _) _ _ _
      rw [ends_finishedFile]
      cases hfile : t.dataFile with
      | none =>
        rw [if_neg (show ¬ (none : Option File).isSome = true from Bool.noConfusion)]
        show Ends (throw Thrown.assertion) _ _ _
        rw [ends_throw, if_pos ⟨rfl, rfl, rfl⟩]
      | some f =>
        rw [if_pos (show (some f).isSome = true from rfl), ends_pure]
        exact ⟨rfl, Or.inl ⟨hbad rfl, f, hfile, rfl⟩, fun hno => by cases hno.2.1⟩

omit [DecidableEq File] in
theorem handle_ends (fastMode : Bool) (e : ResultsException) (t : Frame File (History File)) :
    Ends (handle (History.outcomes o) fastMode (.exception e))
      (fun returned u => returned = false ∧ Handled fastMode t u ∧
        ¬ FinishesEmptyPath o fastMode e t)
      (fun thrown u =>
        (FinishesEmptyPath o fastMode e t → thrown = .assertion) ∧
        (¬ FinishesEmptyPath o fastMode e t → thrown ≠ .assertion ∧ Handled fastMode t u)) t := by
  -- the two handlers that do not look whether `dataFile` is empty
  have hunguarded : e = .databaseDataError ∨ e = .other →
      Ends (rollbackHandler (History.outcomes o) (¬ fastMode))
        (fun returned u => returned = false ∧ Handled fastMode t u ∧
          ¬ FinishesEmptyPath o fastMode e t)
        (fun thrown u =>
          (FinishesEmptyPath o fastMode e t → thrown = .assertion) ∧
          (¬ FinishesEmptyPath o fastMode e t → thrown ≠ .assertion ∧ Handled fastMode t u)) t := by
    intro he
    have hiff : FinishesEmptyPath o fastMode e t ↔
        decide (¬ fastMode = true) = true ∧ t.dataFile = none ∧
          o.rollback t.state.steps = none := by
      unfold FinishesEmptyPath
      cases fastMode <;> simp [he]
    refine (rollbackHandler_ends fastMode (decide (¬ fastMode)) (by simp) t).mono ?_ ?_
    · rintro returned u ⟨hreturned, hu, hno⟩
      exact ⟨hreturned, hu, fun h => hno (hiff.mp h)⟩
    · intro thrown u hu
      constructor
      · intro h
        rwa [if_pos (hiff.mp h)] at hu
      · intro h
        rwa [if_neg (fun h' => h (hiff.mpr h'))] at hu
  have hother : e ≠ .databaseDataError → e ≠ .other → ¬ FinishesEmptyPath o fastMode e t := by
    rintro h1 h2 ⟨h | h, -⟩
    · exact h1 h
    · exact h2 h
  cases e with
  | databaseDataError => exact hunguarded (Or.inl rfl)
  | other => exact hunguarded (Or.inr rfl)
  | database =>
    have hno := hother (by decide) (by decide)
    refine (reconnect_ends t).mono ?_ ?_
    · rintro returned u ⟨hreturned, hu⟩
      exact ⟨hreturned, Or.inr ⟨[], List.forall_mem_nil _, hu⟩, hno⟩
    · rintro thrown u ⟨hthrown, hu⟩
      exact ⟨fun h => absurd h hno, fun _ =>
        ⟨hthrown, Or.inr ⟨[], List.forall_mem_nil _, hu⟩⟩⟩
  | readerDataError =>
    have hno := hother (by decide) (by decide)
    unfold handle getDataFile
    rw [ends_bind, ends_act]
    have hnot : ¬ (decide (¬ fastMode = true ∧ t.dataFile.isSome = true) = true ∧
        t.dataFile = none ∧ o.rollback t.state.steps = none) := by
      rintro ⟨hbad, hnone, -⟩
      rw [hnone] at hbad
      simp at hbad
    refine (rollbackHandler_ends fastMode _ (fun h => ?_) t).mono ?_ ?_
    · simpa using (of_decide_eq_true h).1
    · rintro returned u ⟨hreturned, hu, -⟩
      exact ⟨hreturned, hu, hno⟩
    · intro thrown u hu
      rw [if_neg hnot] at hu
      exact ⟨fun h => absurd h hno, fun _ => hu⟩

/-! ## The files of a call -/

omit [DecidableEq File] in
theorem RollbacksOnly.not_mem {rolled : List (Call File)} (h : RollbacksOnly rolled)
    (dataFile : Option File) (success : Bool) : .finishedFile dataFile success ∉ rolled := by
  intro hin
  obtain ⟨b, hb⟩ := h _ hin
  cases hb

theorem RollbacksOnly.countP {rolled : List (Call File)} (h : RollbacksOnly rolled) (f : File) :
    rolled.countP (Call.finishes f) = 0 := by
  rw [List.countP_eq_zero]
  intro c hc
  obtain ⟨b, rfl⟩ := h c hc
  exact Bool.noConfusion

theorem disposed_of_rollbacks {files : List File} {returned : Bool} {rolled : List (Call File)}
    (h : RollbacksOnly rolled) : Disposed files returned rolled where
  members := fun dataFile success hin => absurd hin (h.not_mem dataFile success)
  once := fun f => by
    rw [h.countP]
    exact Nat.zero_le _
  bad := fun dataFile hin => absurd hin (h.not_mem dataFile false)
  failed := fun _ _ dataFile success => h.not_mem dataFile success

theorem countP_finished (files : List File) (f : File) :
    (files.map fun g => Call.finishedFile (some g) true).countP (Call.finishes f) =
      files.count f := by
  rw [List.countP_map, List.count]
  apply List.countP_congr
  intro g _
  unfold Call.finishes
  simp

theorem disposed_of_finished {files : List File} {rolled : List (Call File)}
    (h : RollbacksOnly rolled) :
    Disposed files true
      ((files.map fun f => .finishedFile (some f) true).reverse ++ rolled) := by
  have hmem : ∀ dataFile success, Call.finishedFile dataFile success ∈
      (files.map fun f => Call.finishedFile (some f) true).reverse ++ rolled →
      success = true ∧ ∃ f ∈ files, dataFile = some f := by
    intro dataFile success hin
    rw [List.mem_append, List.mem_reverse, List.mem_map] at hin
    rcases hin with ⟨f, hf, heq⟩ | hin
    · cases heq
      exact ⟨rfl, f, hf, rfl⟩
    · exact absurd hin (h.not_mem dataFile success)
  refine ⟨fun dataFile success hin => (hmem dataFile success hin).2, fun f => ?_, ?_, ?_⟩
  · rw [List.countP_append, h.countP, List.countP_reverse, countP_finished]
    exact Nat.le_refl _
  · intro dataFile hin
    cases (hmem dataFile false hin).1
  · intro hno
    cases hno

theorem disposed_of_handled {files : List File} {fastMode : Bool}
    (hfast : fastMode = decide (files.length > 1)) {h : History File}
    {t u : Frame File (History File)} {rolled : List (Call File)} (hrolled : RollbacksOnly rolled)
    (ht : t.state.calls = rolled ++ h.calls) (hfile : ∀ f, t.dataFile = some f → f ∈ files)
    (hu : Handled fastMode t u) :
    ∃ new, u.state.calls = new ++ h.calls ∧ Disposed files false new := by
  rcases hu with ⟨hslow, f, hf, hcalls⟩ | ⟨rolled', hrolled', hcalls⟩
  · have hlength : files.length ≤ 1 := by
      rw [hslow] at hfast
      simpa using hfast
    refine ⟨.finishedFile (some f) false :: .rollback true :: rolled, by rw [hcalls, ht]; rfl, ?_⟩
    have hmem : ∀ dataFile success, Call.finishedFile dataFile success ∈
        Call.finishedFile (some f) false :: .rollback true :: rolled →
        dataFile = some f ∧ success = false := by
      intro dataFile success hin
      rcases List.mem_cons.mp hin with heq | hin
      · cases heq
        exact ⟨rfl, rfl⟩
      · rcases List.mem_cons.mp hin with heq | hin
        · cases heq
        · exact absurd hin (hrolled.not_mem dataFile success)
    refine ⟨fun dataFile success hin => ⟨f, hfile f hf, (hmem dataFile success hin).1⟩,
      fun g => ?_, ?_, fun _ hlong => by omega⟩
    · have hfinishes : Call.finishes g (.finishedFile (some f) false) = decide (some f = some g) := rfl
      rw [List.countP_cons, List.countP_cons, hrolled.countP, hfinishes]
      by_cases hg : f = g
      · have hcount := List.count_pos_iff.mpr (hg ▸ hfile f hf : g ∈ files)
        rw [if_neg Bool.noConfusion, if_pos (decide_eq_true (congrArg some hg))]
        omega
      · rw [if_neg Bool.noConfusion, if_neg (fun h => hg (Option.some.inj (of_decide_eq_true h)))]
        exact Nat.zero_le _
    · intro dataFile hin
      rw [(hmem dataFile false hin).1]
      exact ⟨hlength, rolled, rfl⟩
  · refine ⟨rolled' ++ rolled, by rw [hcalls, ht, List.append_assoc], disposed_of_rollbacks ?_⟩
    exact List.forall_mem_append.mpr ⟨hrolled', hrolled⟩

/-- **Disposition.**  The calls that `importFiles` makes for a list of files are right if and only if
it does not miss the file: in slow mode, by an exception of an unguarded class that is thrown before
the first file is reached, with a rollback that succeeds. -/
theorem importFiles_disposed_iff (o : Outcomes File) (files : List File)
    (frame : Frame File (History File)) :
    DisposesRightly o files frame ↔ ¬ MissesFile o frame.state.steps files := by
  have hattempt := importAttempt_ends (o := o) files frame.state
  have hempty : ∀ e (t : Frame File (History File)), t.dataFile = none →
      thrownFirst o frame.state.steps files = some (e, t.state.steps) →
      (FinishesEmptyPath o (decide (files.length > 1)) e t ↔
        MissesFile o frame.state.steps files) := by
    intro e t hnone hfirst
    unfold FinishesEmptyPath MissesFile
    rw [hfirst]
    constructor
    · rintro ⟨hclass, hslow, -, hroll⟩
      exact ⟨by simpa using hslow, e, t.state.steps, rfl, hclass, hroll⟩
    · rintro ⟨hlength, e', k, heq, hclass, hroll⟩
      cases heq
      exact ⟨hclass, by simpa using hlength, hnone, hroll⟩
  unfold DisposesRightly importFiles setDataFile
  rw [ends_bind, ends_act, ends_tryCatch]
  constructor
  · intro hright hmiss
    refine hattempt.contradiction hright ?_ ?_
    · rintro returned t ⟨-, hnone, -⟩ -
      obtain ⟨-, e, k, hfirst, -⟩ := hmiss
      rw [hnone] at hfirst
      cases hfirst
    · rintro thrown t ⟨e, rfl, -, hcase⟩ hhandle
      rcases hcase with ⟨hnone, hfirst⟩ | ⟨hno, -⟩
      · have hpath := (hempty e t hnone hfirst).mpr hmiss
        refine (handle_ends (o := o) _ e t).contradiction hhandle ?_ ?_
        · rintro returned u ⟨-, -, hno⟩ -
          exact hno hpath
        · rintro thrown u ⟨hassert, -⟩ ⟨hne, -⟩
          exact hne (hassert hpath)
      · obtain ⟨-, e', k, hfirst, -⟩ := hmiss
        rw [hno] at hfirst
        cases hfirst
  · intro hmiss
    refine hattempt.mono ?_ ?_
    · rintro returned t ⟨rfl, -, rolled, hrolled, hcalls⟩
      exact ⟨_, hcalls, disposed_of_finished hrolled⟩
    · rintro thrown t ⟨e, rfl, ⟨rolled, hrolled, hcalls⟩, hcase⟩
      have hpath : ¬ FinishesEmptyPath o (decide (files.length > 1)) e t := by
        rcases hcase with ⟨hnone, hfirst⟩ | ⟨-, f, -, hf⟩
        · exact fun h => hmiss ((hempty e t hnone hfirst).mp h)
        · rintro ⟨-, -, hnone, -⟩
          rw [hf] at hnone
          cases hnone
      have hfile : ∀ f, t.dataFile = some f → f ∈ files := by
        intro f hf
        rcases hcase with ⟨hnone, -⟩ | ⟨-, g, hg, hgf⟩
        · rw [hnone] at hf
          cases hf
        · rw [hgf] at hf
          cases hf
          exact hg
      refine (handle_ends (o := o) _ e t).mono ?_ ?_
      · rintro returned u ⟨rfl, hu, -⟩
        exact disposed_of_handled rfl hrolled hcalls hfile hu
      · rintro thrown u ⟨-, hthrown⟩
        obtain ⟨hne, hu⟩ := hthrown hpath
        exact ⟨hne, disposed_of_handled rfl hrolled hcalls hfile hu⟩

end

/-- The transaction cannot be started, and the database reports a data error. -/
def noTransaction : Outcomes String where
  startTransaction := fun _ => some .databaseDataError
  beginParsing := fun _ => none
  stopRequested := fun _ => false
  processFile := fun _ _ => none
  finishParsing := fun _ => .ok true
  commit := fun _ => none
  rollback := fun _ => none
  reconnect := fun _ => none

/-- Then `finishedFile` is called with the empty path. -/
theorem noTransaction_finishes_empty_path :
    ¬ DisposesRightly noTransaction ["Ping-1.hpct"] ⟨none, 0, []⟩ ∧
    (outcome (importFiles (History.outcomes noTransaction) ["Ping-1.hpct"]) ⟨none, 0, []⟩).1 =
      .error .assertion ∧
    (outcome (importFiles (History.outcomes noTransaction) ["Ping-1.hpct"])
      ⟨none, 0, []⟩).2.state.calls = [.finishedFile none false, .rollback true] :=
  ⟨fun h => h.1 rfl, rfl, rfl⟩

end HiPerConTracer.Importer.Handlers
