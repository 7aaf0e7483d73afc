import HiPerConTracer.Importer.NoDataLoss

/-!
# Waking up a worker (`Worker::run`, `Worker::wakeUp`, `UniversalImporter::addFile`)

The worker and the threads that add files and request its stop, as atomic steps.  A file is inserted
under the mutex of the reader; then the worker is notified under the mutex of the worker.  The
worker looks at its queue and at `StopRequested` before it locks its mutex and waits, and does not
look again, so what is notified in between is lost:

    no notification that is needed is sent in between → waiting → nothing to do,
      or a call of `wakeUp` is under way                                 (wakeUp_notLost)
-/

namespace HiPerConTracer.Importer.WakeUp

/-- Where the worker is in `Worker::run`. -/
inductive Place (File : Type) where
  /-- `while(!StopRequested)` -/
  | outer
  /-- Before `fetchFiles`. -/
  | fetching
  /-- `while( (files > 0) && (!StopRequested) )` -/
  | inner (dataFileList : List File)
  /-- In `importFiles`, fast or slow. -/
  | importing (dataFileList : List File)
  /-- `if( (files == 0) && (QuitWhenIdle) )` -/
  | idle (dataFileList : List File)
  /-- `if(!StopRequested)` -/
  | testing (dataFileList : List File)
  /-- Before `std::unique_lock lock(Mutex)`. -/
  | locking
  /-- Holding `Mutex`, before `Notification.wait(lock)`. -/
  | entering
  /-- In `Notification.wait(lock)`, which has released `Mutex`. -/
  | blocked (notified : Bool)
  | finished
deriving DecidableEq, Repr

structure State (File Entry : Type) where
  reader : Reader Entry
  stopRequested : Bool
  place : Place File
  /-- Calls of `wakeUp` for this worker that have not notified it yet. -/
  wakeUps : Nat

inductive Event (File : Type) where
  /-- The next step of the worker. -/
  | worker
  /-- The worker removes a file that it has finished from its reader. -/
  | finishFile (file : File)
  | spuriousWakeUp
  /-- `addFile` of the reader, at a time. -/
  | addFile (now : Int) (file : File)
  /-- `removeFile` of the reader, for a file that has been deleted. -/
  | removeFile (file : File)
  /-- `StopRequested` is set. -/
  | requestStop
  /-- `Notification.notify_one()` under `Mutex`. -/
  | notify
deriving DecidableEq, Repr

section
variable {File Entry : Type} [LinearOrder Entry] (ops : FileEntry File Entry) (cfg : Configuration)

/-- Where the next step takes the worker. -/
def nextPlace (s : State File Entry) : Place File :=
  match s.place with
  | .outer => if s.stopRequested then .finished else .fetching
  | .fetching => .inner (fetchFiles ops s.reader cfg.workerID cfg.maxTransactionSize)
  | .inner files =>
    if files ≠ [] ∧ s.stopRequested = false then .importing files else .idle files
  | .importing _ => .fetching
  | .idle files => if files = [] ∧ cfg.quitWhenIdle then .finished else .testing files
  | .testing _ => if s.stopRequested then .outer else .locking
  | .locking => .entering
  | .entering => .blocked false
  | .blocked notified => if notified then .outer else .blocked false
  | .finished => .finished

/-- An event that cannot happen in the state does nothing. -/
def step (s : State File Entry) : Event File → Except Empty (State File Entry)
  | .worker => .ok { s with place := nextPlace ops cfg s }
  | .finishFile file =>
    match s.place with
    | .importing _ => .ok { s with reader := (removeFile ops s.reader file).1 }
    | _ => .ok s
  | .spuriousWakeUp =>
    match s.place with
    | .blocked _ => .ok { s with place := .blocked true }
    | _ => .ok s
  | .addFile now file =>
    match addFile ops s.reader now file with
    | (reader, worker) =>
      .ok { s with reader
                   wakeUps := if worker = some cfg.workerID then s.wakeUps + 1 else s.wakeUps }
  | .removeFile file => .ok { s with reader := (removeFile ops s.reader file).1 }
  | .requestStop => .ok { s with stopRequested := true, wakeUps := s.wakeUps + 1 }
  | .notify =>
    if s.wakeUps = 0 then .ok s
    else
      match s.place with
      | .entering => .ok s
      | .blocked _ => .ok { s with place := .blocked true, wakeUps := s.wakeUps - 1 }
      | _ => .ok { s with wakeUps := s.wakeUps - 1 }

/-- The worker thread starts with the files that have been found. -/
def State.start (reader : Reader Entry) : State File Entry := ⟨reader, false, .outer, 0⟩

/-! ## The window between looking and waiting -/

/-- The last `fetchFiles` has found nothing, and the next step that looks is after the wait. -/
def Place.fetchedNothing : Place File → Bool
  | .inner [] | .idle [] | .testing [] | .locking | .entering | .blocked false => true
  | _ => false

/-- `StopRequested` has been found to be false, and is not tested again before the wait. -/
def Place.tested : Place File → Bool
  | .locking | .entering | .blocked false => true
  | _ => false

/-- A file of the worker is queued. -/
def State.Queued (s : State File Entry) : Prop :=
  ∃ p, s.reader.dataFileSet p cfg.workerID ≠ []

/-- There is something that the worker does not look at before it waits. -/
def State.Unseen (s : State File Entry) : Prop :=
  s.place.fetchedNothing = true ∧ s.Queued cfg ∨ s.place.tested = true ∧ s.stopRequested = true

/-- The worker waits for a notification, although there is something to do. -/
def State.Lost (s : State File Entry) : Prop :=
  s.place = .blocked false ∧ (s.Queued cfg ∨ s.stopRequested = true)

/-- A notification before the wait is not the last one for something that the worker has not
seen. -/
def NotifiedInTime (s : State File Entry) (event : Event File) : Prop :=
  event = .notify → s.place ≠ .entering → s.place ≠ .blocked false → s.Unseen cfg →
    1 < s.wakeUps

/-- From the last look until the notification, no file of the worker is added and no stop
requested. -/
def Undisturbed (s : State File Entry) (event : Event File) : Prop :=
  (s.place.tested = true → event ≠ .requestStop) ∧
    (s.place.fetchedNothing = true → ∀ now file, event = .addFile now file →
      (addFile ops s.reader now file).2 ≠ some cfg.workerID)

/-! ## The queue of the worker -/

omit [LinearOrder Entry] in
theorem fetchSet_ne_nil (limit : Nat) (l : List File) (es : List Entry)
    (h : l ≠ [] ∨ es ≠ []) : fetchSet ops limit l es ≠ [] := by
  induction es generalizing l with
  | nil =>
    have hl : l ≠ [] := h.resolve_right fun hne => hne rfl
    exact hl
  | cons e es ih =>
    unfold fetchSet
    split
    · simp
    · exact ih _ (Or.inl (by simp))

omit [LinearOrder Entry] in
/-- Nothing is fetched only from an empty queue. -/
theorem fetchFiles_eq_nil {r : Reader Entry} {worker limit : Nat}
    (h : fetchFiles ops r worker limit = []) (p : ReaderPriority) :
    r.dataFileSet p worker = [] := by
  by_contra hne
  unfold fetchFiles at h
  cases p with
  | high =>
    exact fetchSet_ne_nil ops limit _ _
      (Or.inl (fetchSet_ne_nil ops limit _ _ (Or.inr hne))) h
  | low => exact fetchSet_ne_nil ops limit _ _ (Or.inr hne) h

/-- A file that is not for the worker does not change its queue. -/
theorem addFile_other {r : Reader Entry} {now : Int} {file : File} {worker : Nat}
    (h : (addFile ops r now file).2 ≠ some worker) (p : ReaderPriority) :
    (addFile ops r now file).1.dataFileSet p worker = r.dataFileSet p worker := by
  unfold addFile at h ⊢
  split
  · rfl
  · next w e hm =>
    rw [hm] at h
    simp only at h ⊢
    split
    · rfl
    · next hin =>
      rw [if_neg hin] at h
      apply setFiles_other
      rintro ⟨-, rfl⟩
      exact h rfl

theorem removeFile_queue {r : Reader Entry} {file : File} {p : ReaderPriority} {worker : Nat}
    (h : (removeFile ops r file).1.dataFileSet p worker ≠ []) : r.dataFileSet p worker ≠ [] := by
  rcases removeFile_cases ops r file with heq | ⟨p', w, e, -, -, -, heq⟩
  · rw [heq] at h
    exact h
  · rw [heq] at h
    intro hnil
    apply h
    unfold Reader.eraseFile
    by_cases hp : p = p' ∧ worker = w
    · obtain ⟨rfl, rfl⟩ := hp
      show (r.setFiles p worker _).dataFileSet p worker = []
      rw [setFiles_same, hnil]
      rfl
    · show (r.setFiles p' w _).dataFileSet p worker = []
      rw [setFiles_other r _ hp, hnil]

/-! ## Steps -/

/-- A worker that has found files but did not import them has been stopped. -/
def State.SeenStop (s : State File Entry) : Prop :=
  ∀ f fs, s.place = .idle (f :: fs) ∨ s.place = .testing (f :: fs) → s.stopRequested = true

omit [LinearOrder Entry] in
theorem nextPlace_seenStop {s : State File Entry} (h : s.SeenStop) :
    State.SeenStop { s with place := nextPlace ops cfg s } := by
  intro f fs hplace
  show s.stopRequested = true
  change nextPlace ops cfg s = _ ∨ nextPlace ops cfg s = _ at hplace
  unfold nextPlace at hplace
  split at hplace
  case h_3 files hp =>
    split at hplace
    · rcases hplace with he | he <;> cases he
    · next hgo =>
      rcases hplace with he | he
      · cases he
        by_contra hne
        exact hgo ⟨List.cons_ne_nil _ _, Bool.eq_false_iff.mpr hne⟩
      · cases he
  case h_5 files hp =>
    split at hplace
    · rcases hplace with he | he <;> cases he
    · rcases hplace with he | he
      · cases he
      · cases he
        exact h f fs (Or.inl hp)
  all_goals
    try split at hplace
  all_goals
    rcases hplace with he | he <;> cases he

omit [LinearOrder Entry] in
/-- The worker comes into the window with an empty queue. -/
theorem nextPlace_fetchedNothing {s : State File Entry} (hstop : s.SeenStop)
    (h : (nextPlace ops cfg s).fetchedNothing = true) :
    s.place.fetchedNothing = true ∨ ¬ s.Queued cfg := by
  unfold nextPlace at h
  cases hp : s.place with
  | fetching =>
    refine Or.inr ?_
    rintro ⟨p, hne⟩
    rw [hp] at h
    cases hf : fetchFiles ops s.reader cfg.workerID cfg.maxTransactionSize with
    | nil => exact hne (fetchFiles_eq_nil ops hf p)
    | cons f fs =>
      simp only [hf] at h
      cases h
  | inner files =>
    rw [hp] at h
    cases files with
    | nil => exact Or.inl rfl
    | cons f fs =>
      simp only at h
      split at h <;> cases h
  | idle files =>
    rw [hp] at h
    cases files with
    | nil => exact Or.inl rfl
    | cons f fs =>
      simp only at h
      split at h <;> cases h
  | testing files =>
    cases files with
    | nil => exact Or.inl rfl
    | cons f fs =>
      rw [hp] at h
      simp only [hstop f fs (Or.inr hp), if_true] at h
      cases h
  | locking | entering => exact Or.inl rfl
  | blocked notified =>
    rw [hp] at h
    cases notified with
    | false => exact Or.inl rfl
    | true => cases h
  | outer =>
    rw [hp] at h
    simp only at h
    split at h <;> cases h
  | importing | finished =>
    rw [hp] at h
    cases h

omit [LinearOrder Entry] in
/-- The worker goes to the wait without a stop request. -/
theorem nextPlace_tested {s : State File Entry} (h : (nextPlace ops cfg s).tested = true) :
    s.place.tested = true ∨ s.stopRequested = false := by
  unfold nextPlace at h
  cases hp : s.place with
  | testing files =>
    rw [hp] at h
    cases hs : s.stopRequested with
    | false => exact Or.inr rfl
    | true =>
      simp only [hs, if_true] at h
      cases h
  | locking | entering => exact Or.inl rfl
  | blocked notified =>
    rw [hp] at h
    cases notified with
    | false => exact Or.inl rfl
    | true => cases h
  | outer | inner | idle =>
    rw [hp] at h
    simp only at h
    split at h <;> cases h
  | fetching | importing | finished =>
    rw [hp] at h
    cases h

/-! ## Runs -/

/-- For everything that the worker has not seen before the wait, it is going to be notified. -/
structure Heard (s : State File Entry) : Prop where
  seenStop : s.SeenStop
  pending : s.Unseen cfg → 0 < s.wakeUps

/-- Between the last look and the notification there is nothing to do. -/
structure Quiet (s : State File Entry) : Prop where
  seenStop : s.SeenStop
  queue : s.place.fetchedNothing = true → ¬ s.Queued cfg
  stop : s.place.tested = true → s.stopRequested = false

omit [LinearOrder Entry] in
theorem SeenStop.notified {t : State File Entry} (ht : t.place = .blocked true) :
    t.SeenStop := by
  intro f fs hplace
  rw [ht] at hplace
  rcases hplace with he | he <;> cases he

theorem Heard.step {s t : State File Entry} {event : Event File} (h : Heard cfg s)
    (hc : NotifiedInTime cfg s event) (hs : step ops cfg s event = .ok t) : Heard cfg t := by
  cases event with
  | worker =>
    cases hs
    refine ⟨nextPlace_seenStop ops cfg h.seenStop, fun hu => h.pending ?_⟩
    rcases hu with ⟨hplace, hq⟩ | ⟨hplace, hstop⟩
    · exact (nextPlace_fetchedNothing ops cfg h.seenStop hplace).elim
        (fun hf => Or.inl ⟨hf, hq⟩) (fun hno => absurd hq hno)
    · rcases nextPlace_tested ops cfg hplace with ht | hno
      · exact Or.inr ⟨ht, hstop⟩
      · exact absurd (hno.symm.trans hstop) (by decide)
  | finishFile file =>
    simp only [WakeUp.step] at hs
    split at hs
    · next files hp =>
      cases hs
      refine ⟨fun f fs hplace => ?_, fun hu => ?_⟩
      · rw [hp] at hplace
        rcases hplace with he | he <;> cases he
      · rcases hu with ⟨hplace, -⟩ | ⟨hplace, -⟩ <;>
        · rw [hp] at hplace
          cases hplace
    · cases hs
      exact h
  | spuriousWakeUp =>
    simp only [WakeUp.step] at hs
    split at hs
    · cases hs
      refine ⟨SeenStop.notified rfl, fun hu => ?_⟩
      rcases hu with ⟨hplace, -⟩ | ⟨hplace, -⟩ <;> cases hplace
    · cases hs
      exact h
  | addFile now file =>
    cases hs
    refine ⟨h.seenStop, fun hu => ?_⟩
    show 0 < if (addFile ops s.reader now file).2 = some cfg.workerID then s.wakeUps + 1
      else s.wakeUps
    by_cases hother : (addFile ops s.reader now file).2 = some cfg.workerID
    · rw [if_pos hother]
      exact Nat.succ_pos _
    · rw [if_neg hother]
      apply h.pending
      rcases hu with ⟨hplace, p, hq⟩ | hu
      · exact Or.inl ⟨hplace, p, by rw [← addFile_other ops hother p]; exact hq⟩
      · exact Or.inr hu
  | removeFile file =>
    cases hs
    refine ⟨h.seenStop, fun hu => h.pending ?_⟩
    rcases hu with ⟨hplace, p, hq⟩ | hu
    · exact Or.inl ⟨hplace, p, removeFile_queue ops hq⟩
    · exact Or.inr hu
  | requestStop =>
    cases hs
    exact ⟨fun _ _ _ => rfl, fun _ => Nat.succ_pos _⟩
  | notify =>
    simp only [WakeUp.step] at hs
    split at hs
    · cases hs
      exact h
    · split at hs
      · cases hs
        exact h
      · cases hs
        refine ⟨SeenStop.notified rfl, fun hu => ?_⟩
        rcases hu with ⟨hplace, -⟩ | ⟨hplace, -⟩ <;> cases hplace
      · next hentering hblocked =>
        cases hs
        refine ⟨h.seenStop, fun hu => ?_⟩
        have := hc rfl hentering (hblocked false) hu
        show 0 < s.wakeUps - 1
        omega

theorem Quiet.step {s t : State File Entry} {event : Event File} (h : Quiet cfg s)
    (hc : Undisturbed ops cfg s event) (hs : step ops cfg s event = .ok t) : Quiet cfg t := by
  cases event with
  | worker =>
    cases hs
    refine ⟨nextPlace_seenStop ops cfg h.seenStop, fun hplace hq => ?_, fun hplace => ?_⟩
    · rcases nextPlace_fetchedNothing ops cfg h.seenStop hplace with hf | hno
      · exact h.queue hf hq
      · exact hno hq
    · rcases nextPlace_tested ops cfg hplace with ht | hno
      · exact h.stop ht
      · exact hno
  | finishFile file =>
    simp only [WakeUp.step] at hs
    split at hs
    · next files hp =>
      cases hs
      refine ⟨fun f fs hplace => ?_, fun hplace => ?_, h.stop⟩
      · rw [hp] at hplace
        rcases hplace with he | he <;> cases he
      · rw [hp] at hplace
        cases hplace
    · cases hs
      exact h
  | spuriousWakeUp =>
    simp only [WakeUp.step] at hs
    split at hs
    · cases hs
      exact ⟨SeenStop.notified rfl, fun hplace => (by cases hplace), fun hplace => (by cases hplace)⟩
    · cases hs
      exact h
  | addFile now file =>
    cases hs
    refine ⟨h.seenStop, fun hplace => ?_, h.stop⟩
    rintro ⟨p, hq⟩
    apply h.queue hplace
    exact ⟨p, by rw [← addFile_other ops (hc.2 hplace now file rfl) p]; exact hq⟩
  | removeFile file =>
    cases hs
    refine ⟨h.seenStop, fun hplace => ?_, h.stop⟩
    rintro ⟨p, hq⟩
    exact h.queue hplace ⟨p, removeFile_queue ops hq⟩
  | requestStop =>
    cases hs
    exact ⟨fun _ _ _ => rfl, h.queue, fun hplace => absurd rfl (hc.1 hplace)⟩
  | notify =>
    simp only [WakeUp.step] at hs
    split at hs
    · cases hs
      exact h
    · split at hs
      · cases hs
        exact h
      · cases hs
        exact ⟨SeenStop.notified rfl, fun hplace => (by cases hplace), fun hplace => (by cases hplace)⟩
      · cases hs
        exact ⟨h.seenStop, h.queue, h.stop⟩

omit [LinearOrder Entry] in
theorem lost_iff {s : State File Entry} (hb : s.place = .blocked false) :
    s.Lost cfg ↔ s.Unseen cfg := by
  unfold State.Lost State.Unseen Place.fetchedNothing Place.tested
  rw [hb]
  simp only [true_and]

/-- **Wake-ups.**  If every notification comes in time, a worker that waits for one has nothing to
do, or a call of `wakeUp` is under way.  If moreover nothing is added in the window, it has nothing
to do. -/
theorem wakeUp_notLost (reader : Reader Entry) (events : List (Event File))
    {s : State File Entry}
    (h : Run.exec (step ops cfg) (State.start reader) events = .ok s) :
    (Run.Meets (step ops cfg) (NotifiedInTime cfg) (State.start reader) events →
      s.Lost cfg → 0 < s.wakeUps) ∧
    (Run.Meets (step ops cfg) (Undisturbed ops cfg) (State.start reader) events →
      ¬ s.Lost cfg) := by
  have hseen : (State.start reader : State File Entry).SeenStop := by
    intro f fs hplace
    rcases hplace with he | he <;> cases he
  constructor
  · intro hc hlost
    have hstart : Heard cfg (State.start reader : State File Entry) :=
      ⟨hseen, fun hu => by rcases hu with ⟨hplace, -⟩ | ⟨hplace, -⟩ <;> cases hplace⟩
    have hs := Run.exec_invariant (fun _ _ _ hs hc hst => Heard.step ops cfg hs hc hst) hstart hc h
    exact hs.pending ((lost_iff cfg hlost.1).mp hlost)
  · intro hc hlost
    have hstart : Quiet cfg (State.start reader : State File Entry) :=
      ⟨hseen, fun hplace => (by cases hplace), fun hplace => (by cases hplace)⟩
    have hs := Run.exec_invariant (fun _ _ _ hs hc hst => Quiet.step ops cfg hs hc hst) hstart hc h
    rcases (lost_iff cfg hlost.1).mp hlost with ⟨hplace, hq⟩ | ⟨hplace, hstop⟩
    · exact hs.queue hplace hq
    · rw [hs.stop hplace] at hstop
      cases hstop

end

/-! ## Fixed runs -/

def firstWorker : Configuration := ⟨0, 10, .keepImportedFiles, false⟩

/-- A file that is announced while the worker waits: its notification is to come. -/
theorem wakeUp_notLost_waiting :
    (∃ s, Run.exec (step numberedFiles firstWorker) (State.start (Reader.empty 1))
        [.worker, .worker, .worker, .worker, .worker, .worker, .worker, .addFile 0 1] = .ok s ∧
      s.Lost firstWorker ∧ 0 < s.wakeUps) ∧
    ∃ s, Run.exec (step numberedFiles firstWorker) (State.start (Reader.empty 1))
        [.worker, .worker, .worker, .worker, .worker, .worker, .worker] = .ok s ∧
      s.place = .blocked false ∧ ¬ s.Lost firstWorker := by
  constructor
  · refine ⟨_, rfl, ⟨by decide, Or.inl ⟨.high, by decide⟩⟩, ?_⟩
    refine (wakeUp_notLost numberedFiles firstWorker (Reader.empty 1)
      [.worker, .worker, .worker, .worker, .worker, .worker, .worker, .addFile 0 1] rfl).1 ?_
      ⟨by decide, Or.inl ⟨.high, by decide⟩⟩
    refine Run.meets_of_forall _ (fun event hin s hnotify => ?_) _
    rw [hnotify] at hin
    simp at hin
  · refine ⟨_, rfl, by decide, ?_⟩
    refine (wakeUp_notLost numberedFiles firstWorker (Reader.empty 1)
      [.worker, .worker, .worker, .worker, .worker, .worker, .worker] rfl).2 ?_
    refine Run.meets_of_forall _ (fun event hin s => ⟨fun _ hstop => ?_, fun _ now file hadd => ?_⟩) _
    · rw [hstop] at hin
      simp at hin
    · rw [hadd] at hin
      simp at hin

/-- A notification between the look and the wait is lost: for a file, and for a stop request. -/
theorem notification_before_wait_lost :
    (∃ s, Run.exec (step numberedFiles firstWorker) (State.start (Reader.empty 1))
        [.worker, .worker, .addFile 0 1, .notify, .worker, .worker, .worker, .worker, .worker] =
          .ok s ∧ s.Lost firstWorker ∧ s.wakeUps = 0) ∧
    ∃ s, Run.exec (step numberedFiles firstWorker) (State.start (Reader.empty 1))
        [.worker, .worker, .worker, .worker, .worker, .requestStop, .notify, .worker, .worker] =
          .ok s ∧ s.Lost firstWorker ∧ s.wakeUps = 0 := by
  refine ⟨⟨_, rfl, ⟨by decide, Or.inl ⟨.high, by decide⟩⟩, by decide⟩,
    ⟨_, rfl, ⟨by decide, Or.inr (by decide)⟩, by decide⟩⟩

end HiPerConTracer.Importer.WakeUp
