import Mathlib.Data.List.Count
import HiPerConTracer.Importer.NoDataLoss
import HiPerConTracer.Lib.Run

/-!
# Removing a finished file (`Worker::finishedFile`, `UniversalImporter::handleINotifyEvent`)

`finishedFile` deletes or moves a file, and then removes it from the reader.  The deletion sends the
importer an IN_DELETE event, at which it removes the file from the reader as well.  Each of the steps
is atomic; between the two steps of the worker the importer can come first:

    every IN_DELETE event is handled when the file waits in no queue any more
      ↔ the worker has removed each of its files, and nobody else       (finishedFile_raceFree)
-/

namespace HiPerConTracer.Importer.Removal

inductive Thread where
  | worker
  | importer
deriving DecidableEq, Repr

structure State (File Entry : Type) where
  reader : Reader Entry
  /-- The file is where it was found. -/
  inPlace : File → Bool
  /-- The calls of `finishedFile` to come, with their `success`. -/
  calls : List (File × Bool)
  /-- The first call has deleted, moved or kept its file. -/
  disposed : Bool
  /-- The IN_DELETE events that the importer has not handled. -/
  deletions : List File
  /-- The calls of `Reader.removeFile` that returned true. -/
  removals : List (Thread × File)
  /-- `assert(fileRemoved)` has failed. -/
  assertionFailed : Bool

inductive Event (File : Type) where
  /-- The next step of the worker; deleting or moving a file works or fails. -/
  | worker (works : Bool)
  /-- The importer handles the IN_DELETE event of a file. -/
  | importer (dataFile : File)
deriving DecidableEq, Repr

section
variable {File Entry : Type} [DecidableEq File] [LinearOrder Entry] (ops : FileEntry File Entry)
  (importMode : ImportModeType)

/-- `deleteImportedFile`: only a file that is there can be deleted. -/
def deleteImportedFile (s : State File Entry) (dataFile : File) (works : Bool) :
    State File Entry :=
  if works ∧ s.inPlace dataFile then
    { s with inPlace := fun f => if f = dataFile then false else s.inPlace f
             deletions := s.deletions ++ [dataFile] }
  else s

/-- `moveImportedFile`: `rename` does not cause an IN_DELETE event. -/
def moveImportedFile (s : State File Entry) (dataFile : File) (works : Bool) : State File Entry :=
  if works then { s with inPlace := fun f => if f = dataFile then false else s.inPlace f } else s

/-- The first half of `finishedFile`. -/
def dispose (s : State File Entry) (dataFile : File) (success works : Bool) : State File Entry :=
  if success then
    match importMode with
    | .deleteImportedFiles => deleteImportedFile s dataFile works
    | .moveImportedFiles => moveImportedFile s dataFile works
    | .keepImportedFiles => s
  else moveImportedFile s dataFile works

def step (s : State File Entry) : Event File → Except Empty (State File Entry)
  | .worker works =>
    match s.calls with
    | [] => .ok s
    | (dataFile, success) :: calls =>
      if s.disposed then
        match removeFile ops s.reader dataFile with
        | (reader, true) =>
          .ok { s with reader, calls, disposed := false
                       removals := s.removals ++ [(.worker, dataFile)] }
        | (reader, false) =>
          .ok { s with reader, calls, disposed := false, assertionFailed := true }
      else .ok { dispose importMode s dataFile success works with disposed := true }
  | .importer dataFile =>
    if dataFile ∈ s.deletions then
      match removeFile ops s.reader dataFile with
      | (reader, true) =>
        .ok { s with reader, deletions := s.deletions.erase dataFile
                     removals := s.removals ++ [(.importer, dataFile)] }
      | (reader, false) => .ok { s with reader, deletions := s.deletions.erase dataFile }
    else .ok s

def State.start (reader : Reader Entry) (inPlace : File → Bool) (calls : List (File × Bool)) :
    State File Entry :=
  ⟨reader, inPlace, calls, false, [], [], false⟩

/-- The IN_DELETE event of a file is handled when the file waits in no queue. -/
def HandledLate (s : State File Entry) (event : Event File) : Prop :=
  ∀ dataFile, event = .importer dataFile → dataFile ∈ s.deletions →
    s.reader.copies ops dataFile = 0

/-- Every call that has returned has removed its file from a queue, and counted it for the worker
and in the total; the other files wait as before. -/
structure State.RaceFree (worker : Nat) (reader : Reader Entry) (calls : List (File × Bool))
    (s : State File Entry) : Prop where
  assertion : s.assertionFailed = false
  removals : ∃ finished, finished ++ s.calls.map Prod.fst = calls.map Prod.fst ∧
    s.removals = finished.map fun dataFile => (Thread.worker, dataFile)
  copies : ∀ dataFile, s.reader.copies ops dataFile + s.removals.count (.worker, dataFile) =
    reader.copies ops dataFile
  processed : ∀ w, s.reader.processed w = reader.processed w +
    if w = worker ∨ w = reader.workers then s.removals.length else 0

/-! ## The first half of a call -/

omit [LinearOrder Entry] in
/-- Nothing but the file and the events change. -/
theorem dispose_eq (s : State File Entry) (dataFile : File) (success works : Bool) :
    ∃ inPlace deletions, dispose importMode s dataFile success works =
      { s with inPlace, deletions } := by
  unfold dispose deleteImportedFile moveImportedFile
  split
  · cases importMode with
    | deleteImportedFiles =>
      simp only
      split
      · exact ⟨_, _, rfl⟩
      · exact ⟨s.inPlace, s.deletions, rfl⟩
    | moveImportedFiles =>
      simp only
      split
      · exact ⟨_, s.deletions, rfl⟩
      · exact ⟨s.inPlace, s.deletions, rfl⟩
    | keepImportedFiles => exact ⟨s.inPlace, s.deletions, rfl⟩
  · split
    · exact ⟨_, s.deletions, rfl⟩
    · exact ⟨s.inPlace, s.deletions, rfl⟩

/-! ## The worker comes first -/

/-- The files of the calls are queued for the worker, each as often as it is finished. -/
structure Fetched (worker : Nat) (reader : Reader Entry) (calls : List (File × Bool)) : Prop where
  reachable : reader.Reachable ops
  entry : ∀ dataFile ∈ calls.map Prod.fst,
    ∃ e, ops.makeInputFileEntry dataFile reader.workers = some (worker, e)
  count : ∀ dataFile, (calls.map Prod.fst).count dataFile ≤ reader.copies ops dataFile

theorem Fetched.of_sublist {worker limit : Nat} {reader : Reader Entry} {calls : List (File × Bool)}
    (hr : reader.Reachable ops)
    (hcalls : (calls.map Prod.fst).Sublist (fetchFiles ops reader worker limit)) :
    Fetched ops worker reader calls := by
  obtain ⟨hq, hs⟩ := hr.invariants ops
  refine ⟨hr, fun dataFile hin => mem_fetchFiles ops hq (hcalls.subset hin), fun dataFile => ?_⟩
  calc (calls.map Prod.fst).count dataFile
      ≤ (fetchFiles ops reader worker limit).count dataFile := hcalls.count_le dataFile
    _ ≤ reader.copies ops dataFile := count_fetchFiles_le ops hq hs worker limit dataFile

/-- The invariant of the runs in which the importer is late. -/
structure Kept (worker : Nat) (reader : Reader Entry) (calls : List (File × Bool))
    (s : State File Entry) : Prop extends State.RaceFree ops worker reader calls s where
  reachable : s.reader.Reachable ops
  workers : s.reader.workers = reader.workers

/-- A file whose call has not returned still waits. -/
theorem Kept.waits {worker : Nat} {reader : Reader Entry} {calls : List (File × Bool)}
    {s : State File Entry} (hf : Fetched ops worker reader calls)
    (h : Kept ops worker reader calls s) {dataFile : File} {success : Bool}
    {rest : List (File × Bool)} (hcalls : s.calls = (dataFile, success) :: rest) :
    0 < s.reader.copies ops dataFile := by
  obtain ⟨finished, hfin, hrem⟩ := h.removals
  have hcount : s.removals.count (Thread.worker, dataFile) = finished.count dataFile := by
    rw [hrem]
    exact List.count_map_of_injective _ _ (fun a b hab => (Prod.mk.inj hab).2) _
  have hle := hf.count dataFile
  rw [← hfin, hcalls, List.map_cons, List.count_append, List.count_cons_self] at hle
  have hcopies := h.copies dataFile
  omega

theorem Kept.step {worker : Nat} {reader : Reader Entry} {calls : List (File × Bool)}
    (hf : Fetched ops worker reader calls) {s t : State File Entry} {event : Event File}
    (h : Kept ops worker reader calls s) (hc : HandledLate ops s event)
    (hs : step ops importMode s event = .ok t) : Kept ops worker reader calls t := by
  cases event with
  | worker works =>
    simp only [Removal.step] at hs
    split at hs
    · cases hs
      exact h
    · next dataFile success rest hcalls =>
      split at hs
      · have hremoved : (removeFile ops s.reader dataFile).2 = true :=
          (removeFile_iff ops).mpr (h.waits ops hf hcalls)
        split at hs
        · next r heq =>
          cases hs
          obtain ⟨finished, hfin, hrem⟩ := h.removals
          have hr : r = (removeFile ops s.reader dataFile).1 := by rw [heq]
          have hmem : dataFile ∈ calls.map Prod.fst := by
            rw [← hfin, hcalls]
            simp
          obtain ⟨e, hm⟩ := hf.entry dataFile hmem
          have hsets := (h.reachable.invariants ops).2
          refine ⟨⟨h.assertion, ⟨finished ++ [dataFile], ?_, ?_⟩, fun f => ?_, fun w => ?_⟩, ?_, ?_⟩
          · rw [← hfin, hcalls]
            simp
          · show s.removals ++ _ = _
            rw [hrem, List.map_append]
            rfl
          · show r.copies ops f + (s.removals ++ [(Thread.worker, dataFile)]).count _ = _
            have hcopies := h.copies f
            rw [List.count_append, hr]
            by_cases hfd : f = dataFile
            · subst hfd
              have hpos := h.waits ops hf hcalls
              rw [copies_removeFile_same ops hsets, List.count_singleton_self]
              omega
            · have hne : (Thread.worker, f) ∉ [(Thread.worker, dataFile)] := by simp [hfd]
              rw [copies_removeFile_other ops hsets hfd, List.count_eq_zero_of_not_mem hne]
              exact hcopies
          · show r.processed w = _
            rw [← h.workers] at hm
            rw [hr, removeFile_processed ops hm hremoved, h.processed w, h.workers,
              List.length_append]
            split <;> simp [Nat.add_assoc]
          · show r.Reachable ops
            rw [hr]
            exact .removeFile dataFile h.reachable
          · show r.workers = _
            rw [hr, removeFile_workers, h.workers]
        · next r heq =>
          rw [heq] at hremoved
          cases hremoved
      · cases hs
        obtain ⟨inPlace, deletions, heq⟩ := dispose_eq importMode s dataFile success works
        rw [heq]
        exact ⟨⟨h.assertion, h.removals, h.copies, h.processed⟩, h.reachable, h.workers⟩
  | importer dataFile =>
    simp only [Removal.step] at hs
    split at hs
    · next hin =>
      rw [removeFile_of_copies_eq_zero ops (hc dataFile rfl hin)] at hs
      cases hs
      exact ⟨⟨h.assertion, h.removals, h.copies, h.processed⟩, h.reachable, h.workers⟩
    · cases hs
      exact h

/-! ## The importer comes first -/

/-- The importer has removed a file. -/
def ImporterRemoved (s : State File Entry) : Prop :=
  ∃ dataFile, (Thread.importer, dataFile) ∈ s.removals

theorem ImporterRemoved.step {s t : State File Entry} {event : Event File}
    (h : ImporterRemoved s) (hs : step ops importMode s event = .ok t) : ImporterRemoved t := by
  obtain ⟨f, hin⟩ := h
  cases event with
  | worker works =>
    simp only [Removal.step] at hs
    split at hs
    · cases hs
      exact ⟨f, hin⟩
    · next dataFile success rest hcalls =>
      split at hs
      · split at hs
        · cases hs
          exact ⟨f, List.mem_append_left _ hin⟩
        · cases hs
          exact ⟨f, hin⟩
      · cases hs
        obtain ⟨inPlace, deletions, heq⟩ := dispose_eq importMode s dataFile success works
        rw [heq]
        exact ⟨f, hin⟩
  | importer dataFile =>
    simp only [Removal.step] at hs
    split at hs
    · split at hs
      · cases hs
        exact ⟨f, List.mem_append_left _ hin⟩
      · cases hs
        exact ⟨f, hin⟩
    · cases hs
      exact ⟨f, hin⟩

theorem importerRemoved_of_early {s t : State File Entry} {event : Event File}
    (hc : ¬ HandledLate ops s event) (hs : step ops importMode s event = .ok t) :
    ImporterRemoved t := by
  unfold HandledLate at hc
  push Not at hc
  obtain ⟨dataFile, rfl, hin, hcopies⟩ := hc
  have hremoved := (removeFile_iff ops).mpr (Nat.pos_of_ne_zero hcopies)
  simp only [Removal.step, hin, if_true] at hs
  split at hs
  · cases hs
    exact ⟨dataFile, List.mem_append_right _ List.mem_cons_self⟩
  · next r heq =>
    rw [heq] at hremoved
    cases hremoved

/-! ## Runs -/

/-- **Finishing files.**  The files of the calls have been fetched by the worker.  Exactly in the
runs in which the importer is late, each call removes its file, the assertion holds, and nobody else
removes a file. -/
theorem finishedFile_raceFree {worker limit : Nat} {reader : Reader Entry}
    (hr : reader.Reachable ops) (inPlace : File → Bool) (calls : List (File × Bool))
    (hcalls : (calls.map Prod.fst).Sublist (fetchFiles ops reader worker limit))
    (events : List (Event File)) {s : State File Entry}
    (h : Run.exec (step ops importMode) (State.start reader inPlace calls) events = .ok s) :
    Run.Meets (step ops importMode) (HandledLate ops) (State.start reader inPlace calls) events ↔
      s.RaceFree ops worker reader calls := by
  have hf := Fetched.of_sublist ops hr hcalls
  constructor
  · intro hc
    have hstart : Kept ops worker reader calls (State.start reader inPlace calls) :=
      ⟨⟨rfl, ⟨[], rfl, rfl⟩, fun _ => rfl, fun _ => by split <;> rfl⟩, hr, rfl⟩
    exact (Run.exec_invariant (fun _ _ _ hk hc hst => hk.step ops importMode hf hc hst)
      hstart hc h).toRaceFree
  · intro hfree
    apply Run.meets_of_exec (fun _ _ _ hrem hst => ImporterRemoved.step ops importMode hrem hst)
      (fun _ _ _ hc hst => importerRemoved_of_early ops importMode hc hst) h
    rintro ⟨f, hin⟩
    obtain ⟨finished, -, hrem⟩ := hfree.removals
    rw [hrem] at hin
    obtain ⟨g, -, hg⟩ := List.mem_map.mp hin
    cases hg

end

/-! ## Fixed runs -/

/-- A reader with one file, queued for its only worker. -/
def oneFile : Reader Nat := (addFile numberedFiles (Reader.empty 1) 0 1).1

/-- The worker deletes the file and removes it, then the importer hears of the deletion. -/
theorem finishedFile_raceFree_late :
    ∃ s, Run.exec (step numberedFiles .deleteImportedFiles)
        (State.start oneFile (fun _ => true) [(1, true)])
        [.worker true, .worker true, .importer 1] = .ok s ∧
      s.RaceFree numberedFiles 0 oneFile [(1, true)] := by
  have hfetched : ([(1, true)].map Prod.fst).Sublist (fetchFiles numberedFiles oneFile 0 10) := by
    decide
  refine ⟨_, rfl, (finishedFile_raceFree numberedFiles .deleteImportedFiles
    (.addFile 0 1 (.empty 1)) (fun _ => true) [(1, true)] hfetched
    [.worker true, .worker true, .importer 1] rfl).mp ?_⟩
  refine ⟨fun f he => (by cases he), fun t ht => ?_⟩
  cases ht
  refine ⟨fun f he => (by cases he), fun t ht => ?_⟩
  cases ht
  refine ⟨fun f he hin => ?_, fun t ht => trivial⟩
  cases he
  decide

/-- The importer hears of the deletion before the worker has removed the file: the importer removes
it, and the assertion of the worker fails. -/
theorem importer_first_assertionFailed :
    ∃ s, Run.exec (step numberedFiles .deleteImportedFiles)
        (State.start oneFile (fun _ => true) [(1, true)])
        [.worker true, .importer 1, .worker true] = .ok s ∧
      s.assertionFailed = true ∧ s.removals = [(.importer, 1)] :=
  ⟨_, rfl, by decide, by decide⟩

end HiPerConTracer.Importer.Removal
