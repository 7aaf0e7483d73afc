import HiPerConTracer.Lib.Run
import HiPerConTracer.Importer.ImportFiles

/-!
# No data is lost

A file may be finished as good, which means deleted or moved away, only if it was imported: it is
empty, or all of its lines went into a transaction that was committed.  `importFiles` finishes all
files of its list, also those that the loop left out because of a stop request, those that could
not be opened and those whose stream failed before their end.  So a call keeps the rule exactly if
it throws, or gets to every file and can read all of it:

    NoLoss s (importFiles s files) ↔ Keeps s.clock files          (importFiles_noLoss_iff)

and a run of the worker keeps it if all its calls are of this kind (`worker_noLoss`).
-/

namespace HiPerConTracer.Importer

variable {File Entry Row : Type}

section
variable [DecidableEq File]

/-- The actions since `importFiles` was called last. -/
def currentCall (trace : List (Action File)) : List (Action File) :=
  trace.takeWhile fun a => a ≠ .importFiles

/-- The actions of a call by which a file is imported.  A file without results is as good as
empty: the transaction without rows is rolled back ("Nothing to import!"). -/
def Imported (call : List (Action File)) (f : File) : Prop :=
  .emptyFile f ∈ call ∨ .parsed f 0 ∈ call ∨ ((∃ n, .parsed f n ∈ call) ∧ .committed ∈ call)

/-- Every file that was finished as good had been imported by the same call. -/
def GoodOnlyIfImported (trace : List (Action File)) : Prop :=
  ∀ f rest, (.finished (some f) true :: rest) <:+ trace → Imported (currentCall rest) f

/-- The same for the files finished as good on the way from the first state to the second. -/
def NoLoss (s s' : State File Entry Row) : Prop :=
  ∀ f rest, (.finished (some f) true :: rest) <:+ s'.trace →
    ¬ (.finished (some f) true :: rest) <:+ s.trace → Imported (currentCall rest) f

theorem GoodOnlyIfImported.extend {s s' : State File Entry Row} (h : GoodOnlyIfImported s.trace)
    (h' : NoLoss s s') : GoodOnlyIfImported s'.trace := by
  intro f rest hf
  by_cases hs : (.finished (some f) true :: rest) <:+ s.trace
  · exact h f rest hs
  · exact h' f rest hf hs

/-! ## Traces -/

theorem currentCall_append {l : List (Action File)} (r : List (Action File))
    (h : ∀ a ∈ l, a ≠ .importFiles) : currentCall (l ++ .importFiles :: r) = l := by
  unfold currentCall
  rw [List.takeWhile_append_of_pos (by simpa using h)]
  simp

/-- An action at the end of a list that is put before another one is in either of them. -/
theorem cons_suffix_append {α : Type} {a : α} {rest l r : List α} (h : (a :: rest) <:+ l ++ r) :
    (a :: rest) <:+ r ∨ ∃ l', (a :: l') <:+ l ∧ rest = l' ++ r := by
  induction l with
  | nil => exact Or.inl h
  | cons b l ih =>
    rw [List.cons_append, List.suffix_cons_iff] at h
    rcases h with h | h
    · obtain ⟨rfl, rfl⟩ := List.cons.inj h
      exact Or.inr ⟨l, List.suffix_rfl, rfl⟩
    · rcases ih h with h | ⟨l', hl, hr⟩
      · exact Or.inl h
      · exact Or.inr ⟨l', List.suffix_cons_iff.mpr (Or.inr hl), hr⟩

theorem exists_cons_suffix {α : Type} {a : α} {l : List α} (h : a ∈ l) :
    ∃ l', (a :: l') <:+ l := by
  obtain ⟨l₁, l₂, rfl⟩ := List.append_of_mem h
  exact ⟨l₂, l₁, rfl⟩

theorem State.Unlost.noLoss {s s' : State File Entry Row} (h : s.Unlost s') : NoLoss s s' := by
  intro f rest hf hs
  obtain ⟨new, hn, ht⟩ := h.trace
  rw [ht] at hf
  rcases cons_suffix_append hf with hf | ⟨l', hl, -⟩
  · exact absurd hf hs
  · exact absurd (hn _ (hl.subset List.mem_cons_self)) (by simp [Action.neutral])

theorem NoLoss.of_log {s s' : State File Entry Row} (h : NoLoss (s.log .importFiles) s') :
    NoLoss s s' := by
  intro f rest hf hs
  refine h f rest hf fun hlog => ?_
  rcases List.suffix_cons_iff.mp hlog with heq | hlog
  · cases heq
  · exact hs hlog

end

/-! ## One call -/

section
variable (env : Environment File Row)

/-- The file is empty, or it can be opened and its stream lasts to its end. -/
def ReadWhole (t : Nat) (f : File) : Prop :=
  env.fileSize t f = some 0 ∨ (env.openStream t f = true ∧ env.streamFails t f = false)

/-- The calls at moment `t` that lose nothing: something is thrown, or every file of the list has a
place where no stop request has come and where all of it can be read. -/
def Keeps (t : Nat) (files : List File) : Prop :=
  ImportFails env t files ∨
  ∀ f ∈ files, ∃ i, files[i]? = some f ∧ env.stopRequested (t + 1 + i) = false ∧
    ReadWhole env (t + 1 + i) f

theorem mem_readingTrace {t : Nat} {files : List File} {a : Action File} :
    a ∈ readingTrace env t files ↔ ∃ i f, files[i]? = some f ∧
      env.stopRequested (t + i) = false ∧ a = fileAction env (t + i) f := by
  unfold readingTrace
  rw [List.mem_reverse, List.mem_map]
  constructor
  · rintro ⟨⟨m, f⟩, hp, rfl⟩
    obtain ⟨i, rfl, hf, hs⟩ := (mem_reached_iff env).mp hp
    exact ⟨i, f, hf, hs, rfl⟩
  · rintro ⟨i, f, hf, hs, rfl⟩
    exact ⟨(t + i, f), (mem_reached_iff env).mpr ⟨i, rfl, hf, hs⟩, rfl⟩

/-- The action of a file says whether all of the file was read. -/
theorem fileAction_of_readWhole {t : Nat} {f : File} (h : ReadWhole env t f) :
    fileAction env t f = .emptyFile f ∨
      (readable env t f ∧ fileAction env t f = .parsed f (fileRows env t f).length) := by
  unfold fileAction fileRows parsedAction
  by_cases h0 : env.fileSize t f = some 0
  · exact Or.inl (if_pos h0)
  · obtain ⟨ho, hw⟩ := h.resolve_left h0
    have hr : readable env t f := ⟨h0, ho⟩
    exact Or.inr ⟨hr, by simp [h0, ho, hw, hr]⟩

theorem readWhole_of_fileAction {t : Nat} {f g : File}
    (h : fileAction env t g = .emptyFile f ∨ ∃ n, fileAction env t g = .parsed f n) :
    g = f ∧ ReadWhole env t g := by
  unfold fileAction at h
  by_cases h0 : env.fileSize t g = some 0
  · simp only [h0, if_true] at h
    rcases h with h | ⟨n, h⟩
    · exact ⟨by cases h; rfl, Or.inl h0⟩
    · cases h
  · by_cases ho : env.openStream t g = true
    · unfold parsedAction at h
      by_cases hw : env.streamFails t g = true
      · simp only [h0, ho, hw, if_false, if_true] at h
        rcases h with h | ⟨n, h⟩ <;> cases h
      · simp only [h0, ho, hw, if_false, if_true] at h
        rcases h with h | ⟨n, h⟩
        · cases h
        · exact ⟨by cases h; rfl, Or.inr ⟨ho, by simpa using hw⟩⟩
    · simp only [h0, ho, if_false] at h
      rcases h with h | ⟨n, h⟩ <;> cases h

/-- The rows of a file that is reached are among those read. -/
theorem fileRows_subset_rowsRead {t i : Nat} {files : List File} {f : File}
    (hf : files[i]? = some f) (hs : env.stopRequested (t + i) = false) :
    fileRows env (t + i) f ⊆ rowsRead env t files := by
  intro r hr
  unfold rowsRead
  exact List.mem_flatMap.mpr ⟨(t + i, f), (mem_reached_iff env).mpr ⟨i, rfl, hf, hs⟩, hr⟩

/-- The actions of a call that throws nothing, up to some point of the disposal loop. -/
def doneCall (pre : List (Action File)) (t : Nat) (files : List File) : List (Action File) :=
  pre ++ (if rowsRead env t files = [] then .rolledBack else .committed) ::
    readingTrace env t files

/-- In such a call a file is imported exactly if the parsing loop gets to it and can read all of
it. -/
theorem imported_doneCall_iff {pre : List (Action File)} {t : Nat} {files : List File} {f : File}
    (hpre : ∀ a ∈ pre, (∃ g ∈ files, a = .finished (some g) true) ∨ a = .assertionFailed) :
    Imported (doneCall env pre t files) f ↔
      ∃ i, files[i]? = some f ∧ env.stopRequested (t + i) = false ∧ ReadWhole env (t + i) f := by
  have hreading : ∀ a : Action File, a.reading → a ∈ doneCall env pre t files →
      a ∈ readingTrace env t files := by
    intro a ha hin
    rcases List.mem_append.mp hin with hin | hin
    · rcases hpre a hin with ⟨g, -, rfl⟩ | rfl <;> exact ha.elim
    · rcases List.mem_cons.mp hin with rfl | hin
      · split at ha <;> exact ha.elim
      · exact hin
  have hsub : ∀ a ∈ readingTrace env t files, a ∈ doneCall env pre t files := by
    intro a ha
    exact List.mem_append.mpr (Or.inr (List.mem_cons_of_mem _ ha))
  constructor
  · intro h
    have hact : ∃ a ∈ readingTrace env t files, a = .emptyFile f ∨ ∃ n, a = .parsed f n := by
      rcases h with h | h | ⟨⟨n, h⟩, -⟩
      · exact ⟨_, hreading (.emptyFile f) trivial h, Or.inl rfl⟩
      · exact ⟨_, hreading (.parsed f 0) trivial h, Or.inr ⟨0, rfl⟩⟩
      · exact ⟨_, hreading (.parsed f n) trivial h, Or.inr ⟨n, rfl⟩⟩
    obtain ⟨a, ha, hf⟩ := hact
    obtain ⟨i, g, hg, hs, rfl⟩ := (mem_readingTrace env).mp ha
    obtain ⟨rfl, ho⟩ := readWhole_of_fileAction env hf
    exact ⟨i, hg, hs, ho⟩
  · rintro ⟨i, hf, hs, ho⟩
    have hin : fileAction env (t + i) f ∈ doneCall env pre t files :=
      hsub _ ((mem_readingTrace env).mpr ⟨i, f, hf, hs, rfl⟩)
    rcases fileAction_of_readWhole env ho with ha | ⟨-, ha⟩
    · exact Or.inl (ha ▸ hin)
    · rw [ha] at hin
      by_cases hr : rowsRead env t files = []
      · -- nothing was read at all, so this file had no rows either
        have h0 : fileRows env (t + i) f = [] :=
          List.subset_nil.mp (hr ▸ fileRows_subset_rowsRead env hf hs)
        rw [h0] at hin
        exact Or.inr (Or.inl hin)
      · refine Or.inr (Or.inr ⟨⟨_, hin⟩, ?_⟩)
        unfold doneCall
        rw [if_neg hr]
        simp

theorem doneCall_append (pre : List (Action File)) (t : Nat) (files : List File) :
    pre ++ doneCall env [] t files = doneCall env pre t files := by
  simp [doneCall]

theorem doneCall_not_importFiles {pre : List (Action File)} {t : Nat} {files : List File}
    (hpre : ∀ a ∈ pre, (∃ g ∈ files, a = .finished (some g) true) ∨ a = .assertionFailed) :
    ∀ a ∈ doneCall env pre t files, a ≠ .importFiles := by
  rintro a ha rfl
  rcases List.mem_append.mp ha with ha | ha
  · rcases hpre _ ha with ⟨g, -, h⟩ | h <;> cases h
  · rcases List.mem_cons.mp ha with h | ha
    · split at h <;> cases h
    · exact readingTrace_reading env t files _ ha

variable [DecidableEq File] [LinearOrder Entry] (ops : FileEntry File Entry) (cfg : Configuration)

/-- The disposal loop finishes every file of the list, and it does nothing else. -/
theorem finishFiles_trace (s : State File Entry Row) (files : List File) :
    ∃ new, (∀ a ∈ new, (∃ f ∈ files, a = .finished (some f) true) ∨ a = .assertionFailed) ∧
      (∀ f ∈ files, .finished (some f) true ∈ new) ∧
      (finishFiles env ops cfg s files).trace = new ++ s.trace := by
  induction files generalizing s with
  | nil => exact ⟨[], by simp, by simp, rfl⟩
  | cons f fs ih =>
    obtain ⟨one, hone, ht⟩ := (finishedFile_finished env ops cfg s f true).trace
    obtain ⟨new, hn, hall, htr⟩ := ih (finishedFile env ops cfg s (some f) true)
    refine ⟨new ++ (one ++ [.finished (some f) true]), ?_, ?_, ?_⟩
    · intro a ha
      simp only [List.mem_append, List.mem_singleton] at ha
      rcases ha with ha | ha | rfl
      · rcases hn a ha with ⟨g, hg, rfl⟩ | rfl
        · exact Or.inl ⟨g, List.mem_cons_of_mem _ hg, rfl⟩
        · exact Or.inr rfl
      · exact Or.inr (hone a ha)
      · exact Or.inl ⟨f, List.mem_cons_self, rfl⟩
    · intro g hg
      rcases List.mem_cons.mp hg with rfl | hg
      · simp
      · simp [hall g hg]
    · rw [finishFiles, htr, ht]
      simp

/-- The trace after a call that throws nothing. -/
theorem importFiles_done_trace (s : State File Entry Row) (files : List File)
    (h : ¬ ImportFails env s.clock files) :
    ∃ new, (∀ a ∈ new, (∃ f ∈ files, a = .finished (some f) true) ∨ a = .assertionFailed) ∧
      (∀ f ∈ files, .finished (some f) true ∈ new) ∧
      (importFiles env ops cfg s files).1.trace =
        new ++ doneCall env [] (s.clock + 1) files ++ .importFiles :: s.trace := by
  obtain ⟨new, hn, hall, ht⟩ := finishFiles_trace env ops cfg
    (attemptDone env (s.log .importFiles) files) files
  refine ⟨new, hn, hall, ?_⟩
  rw [importFiles_done env ops cfg s files h, ht]
  simp only [attemptDone, State.log, doneCall, List.nil_append, List.cons_append,
    List.append_assoc]
  rfl

/-- One call of `importFiles` loses nothing exactly if it is one of those that keep the rule. -/
theorem importFiles_noLoss_iff (s : State File Entry Row) (files : List File) :
    NoLoss s (importFiles env ops cfg s files).1 ↔ Keeps env s.clock files := by
  by_cases hfail : ImportFails env s.clock files
  · obtain ⟨hu, -⟩ := importFiles_fails env ops cfg s files hfail
    exact ⟨fun _ => Or.inl hfail, fun _ => hu.noLoss.of_log⟩
  · obtain ⟨new, hn, hall, ht⟩ := importFiles_done_trace env ops cfg s files hfail
    have hcall : ∀ f l', (.finished (some f) true :: l') <:+ new →
        currentCall (l' ++ (doneCall env [] (s.clock + 1) files ++ .importFiles :: s.trace)) =
            doneCall env l' (s.clock + 1) files ∧
          ∀ a ∈ l', (∃ g ∈ files, a = .finished (some g) true) ∨ a = .assertionFailed := by
      intro f l' hl
      have hl' : ∀ a ∈ l', (∃ g ∈ files, a = .finished (some g) true) ∨ a = .assertionFailed :=
        fun a ha => hn a (hl.subset (List.mem_cons_of_mem _ ha))
      rw [← List.append_assoc, doneCall_append,
        currentCall_append _ (doneCall_not_importFiles env hl')]
      exact ⟨rfl, hl'⟩
    rw [List.append_assoc] at ht
    constructor
    · intro h
      refine Or.inr fun f hf => ?_
      obtain ⟨l', hl⟩ := exists_cons_suffix (hall f hf)
      obtain ⟨hc, hpre⟩ := hcall f l' hl
      rw [← imported_doneCall_iff env hpre, ← hc]
      refine h f _ ?_ ?_
      · rw [ht]
        obtain ⟨p, rfl⟩ := hl
        exact ⟨p, by simp⟩
      · intro hs
        have hlen := hs.length_le
        simp only [List.length_cons, List.length_append] at hlen
        omega
    · intro h f rest hf hs
      have hk := h.resolve_left hfail
      rw [ht] at hf
      rcases cons_suffix_append hf with hf | ⟨l', hl, rfl⟩
      · -- before the disposal loop nothing is finished
        rcases cons_suffix_append hf with hf | ⟨l', hl, -⟩
        · rcases List.suffix_cons_iff.mp hf with heq | hf
          · cases heq
          · exact absurd hf hs
        · have hin := hl.subset List.mem_cons_self
          rcases List.mem_cons.mp hin with heq | hin
          · split at heq <;> cases heq
          · exact (readingTrace_reading env _ _ _ hin).elim
      · obtain ⟨hc, hpre⟩ := hcall f l' hl
        rw [hc, imported_doneCall_iff env hpre]
        have hf : f ∈ files := by
          rcases hn _ (hl.subset List.mem_cons_self) with ⟨g, hg, heq⟩ | heq
          · cases heq
            exact hg
          · cases heq
        exact hk f hf

/-! ## Runs of the worker -/

/-- Files that have left for the good directory, or were deleted, were finished as good. -/
def Disposed (s : State File Entry Row) : Prop :=
  ∀ f, s.location f = .goodDirectory ∨ s.location f = .deleted → .finished (some f) true ∈ s.trace

theorem finishFiles_location (s : State File Entry Row) (files : List File) (f : File) :
    (finishFiles env ops cfg s files).location f = s.location f ∨ f ∈ files := by
  induction files generalizing s with
  | nil => exact Or.inl rfl
  | cons g fs ih =>
    rcases ih (finishedFile env ops cfg s (some g) true) with h | h
    · rcases (finishedFile_finished env ops cfg s g true).location f with hl | ⟨rfl, -⟩
      · exact Or.inl (h.trans hl)
      · exact Or.inr List.mem_cons_self
    · exact Or.inr (List.mem_cons_of_mem _ h)

theorem importFiles_disposed {s : State File Entry Row} (files : List File) (h : Disposed s) :
    Disposed (importFiles env ops cfg s files).1 := by
  intro f hf
  by_cases hfail : ImportFails env s.clock files
  · obtain ⟨hu, -⟩ := importFiles_fails env ops cfg s files hfail
    obtain ⟨new, -, ht⟩ := hu.trace
    rw [ht]
    refine List.mem_append.mpr (Or.inr (List.mem_cons_of_mem _ (h f ?_)))
    rcases hu.location f with hl | hl
    · rwa [hl] at hf
    · rw [hl] at hf
      rcases hf with hf | hf <;> cases hf
  · obtain ⟨new, -, hall, ht⟩ := importFiles_done_trace env ops cfg s files hfail
    rw [ht]
    rw [importFiles_done env ops cfg s files hfail] at hf
    rcases finishFiles_location env ops cfg (attemptDone env (s.log .importFiles) files) files f
      with hl | hin
    · rw [hl] at hf
      exact List.mem_append.mpr (Or.inr (List.mem_cons_of_mem _ (h f hf)))
    · exact List.mem_append.mpr (Or.inl (List.mem_append.mpr (Or.inl (hall f hin))))

/-- The call of `importFiles` that the next turn makes: its moment and its list. -/
def Worker.nextCall (w : Worker File Entry Row) : Option (Nat × List File) :=
  match w.pc with
  | .inner files =>
    if files ≠ [] ∧ env.stopRequested w.state.clock = false then some (w.state.clock + 1, files)
    else none
  | .slow (f :: _) =>
    if env.stopRequested w.state.clock then none else some (w.state.clock + 1, [f])
  | _ => none

/-- The next turn makes no call that can lose something. -/
def Worker.Keeps (w : Worker File Entry Row) : Prop :=
  ∀ t files, w.nextCall env = some (t, files) → Importer.Keeps env t files

/-- A turn of the worker acts on files through its call of `importFiles` only. -/
theorem step_cases (w : Worker File Entry Row) :
    ((w.step env ops cfg).state.trace = w.state.trace ∧
      (w.step env ops cfg).state.location = w.state.location) ∨
    ∃ files, w.nextCall env = some (w.state.clock + 1, files) ∧
      (w.step env ops cfg).state.trace = (importFiles env ops cfg w.state.tick files).1.trace ∧
      (w.step env ops cfg).state.location =
        (importFiles env ops cfg w.state.tick files).1.location := by
  obtain ⟨pc, s⟩ := w
  cases pc with
  | outer =>
    refine Or.inl ?_
    simp only [Worker.step]
    split <;> exact ⟨rfl, rfl⟩
  | inner files =>
    by_cases hc : files ≠ [] ∧ env.stopRequested s.clock = false
    · refine Or.inr ⟨files, if_pos hc, ?_⟩
      simp only [Worker.step, hc, ne_eq, not_false_eq_true, and_self, if_true]
      rcases importFiles env ops cfg s.tick files with ⟨s', r⟩
      cases r with
      | returned imported =>
        cases imported with
        | true => exact ⟨rfl, rfl⟩
        | false => simp only; split <;> exact ⟨rfl, rfl⟩
      | thrown e => exact ⟨rfl, rfl⟩
    · refine Or.inl ?_
      simp only [Worker.step, if_neg hc]
      split
      · exact ⟨rfl, rfl⟩
      · split <;> exact ⟨rfl, rfl⟩
  | slow files =>
    cases files with
    | nil => exact Or.inl ⟨rfl, rfl⟩
    | cons f fs =>
      by_cases hs : env.stopRequested s.clock = true
      · refine Or.inl ?_
        simp only [Worker.step, if_pos hs]
        exact ⟨rfl, rfl⟩
      · refine Or.inr ⟨[f], by simp [Worker.nextCall, hs], ?_⟩
        simp only [Worker.step, if_neg hs]
        rcases importFiles env ops cfg s.tick [f] with ⟨s', r⟩
        cases r <;> exact ⟨rfl, rfl⟩
  | waiting => exact Or.inl ⟨rfl, rfl⟩
  | finished => exact Or.inl ⟨rfl, rfl⟩

theorem step_keeps {w : Worker File Entry Row}
    (h : GoodOnlyIfImported w.state.trace ∧ Disposed w.state) (hk : w.Keeps env) :
    GoodOnlyIfImported (w.step env ops cfg).state.trace ∧
      Disposed (w.step env ops cfg).state := by
  rcases step_cases env ops cfg w with ⟨ht, hl⟩ | ⟨files, hcall, ht, hl⟩
  · unfold Disposed
    rw [ht, hl]
    exact h
  · have hloss := (importFiles_noLoss_iff env ops cfg w.state.tick files).mpr
      (hk (w.state.clock + 1) files hcall)
    have hd : Disposed w.state.tick := h.2
    refine ⟨?_, ?_⟩
    · rw [ht]
      exact GoodOnlyIfImported.extend h.1 hloss
    · have := importFiles_disposed env ops cfg files hd
      unfold Disposed at this ⊢
      rw [ht, hl]
      exact this

/-- **No data loss.**  A call of `importFiles` finishes only imported files as good if and only if
it keeps the rule, and after a run of such calls every file that was deleted or has moved to the
good directory had been imported. -/
theorem worker_noLoss :
    (∀ (s : State File Entry Row) (files : List File),
      NoLoss s (importFiles env ops cfg s files).1 ↔ Keeps env s.clock files) ∧
    ∀ (reader : Reader Entry) (database : List Row) (n : Nat),
      (∀ k, k < n → ((Worker.step env ops cfg)^[k] (Worker.start reader database)).Keeps env) →
      let s := ((Worker.step env ops cfg)^[n] (Worker.start reader database)).state
      GoodOnlyIfImported s.trace ∧
      ∀ f, s.location f = .goodDirectory ∨ s.location f = .deleted →
        ∃ rest, (.finished (some f) true :: rest) <:+ s.trace ∧ Imported (currentCall rest) f := by
  refine ⟨importFiles_noLoss_iff env ops cfg, ?_⟩
  intro reader database n hk s
  have hstart : GoodOnlyIfImported (Worker.start reader database : Worker File Entry Row).state.trace ∧
      Disposed (Worker.start reader database : Worker File Entry Row).state := by
    refine ⟨fun f rest hf => ?_, fun f hf => ?_⟩
    · exact absurd (List.suffix_nil.mp hf) (by simp)
    · rcases hf with hf | hf <;> cases hf
  obtain ⟨hg, hd⟩ := Run.iterate_invariant (P := fun w : Worker File Entry Row =>
    GoodOnlyIfImported w.state.trace ∧ Disposed w.state)
    (fun w hw hc => step_keeps env ops cfg hw hc) hstart n hk
  refine ⟨hg, fun f hf => ?_⟩
  obtain ⟨rest, hrest⟩ := exists_cons_suffix (hd f hf)
  exact ⟨rest, hrest, hg f rest hrest⟩

end

/-! ## A stop request between two files -/

/-- Files that are numbers, all for the first worker, each with one row. -/
def numberedFiles : FileEntry Nat Nat where
  dataFile := id
  timeStamp := fun _ => 0
  makeInputFileEntry := fun f _ => some (0, f)
  dataFile_eq := by
    intro f n w e h
    simp only [Option.some.injEq, Prod.mk.injEq] at h
    exact h.2.symm

/-- Everything works; two files arrive before the first fetch. -/
def twoFiles (stopAt : Option Nat) : Environment Nat Nat where
  stopAt := stopAt
  startTransaction := fun _ => none
  beginParsing := fun _ => none
  fileSize := fun _ _ => some 100
  openStream := fun _ _ => true
  parseContents := fun _ f => ([f], none)
  streamFails := fun _ _ => false
  executeUpdate := fun _ _ => none
  commit := fun _ => none
  rollback := fun _ => none
  reconnect := fun _ => none
  remove := fun _ _ => true
  rename := fun _ _ => true
  arrivals := fun t => if t = 0 then [(0, 1), (0, 2)] else []

def deleting : Configuration := ⟨0, 10, .deleteImportedFiles, true⟩

/-- The worker after `n` turns, if the stop request comes at moment `stopAt`. -/
def twoFilesRun (stopAt : Option Nat) (n : Nat) : Worker Nat Nat Nat :=
  (Worker.step (twoFiles stopAt) numberedFiles deleting)^[n] (Worker.start (Reader.empty 1) [])

/-- Without a stop request the run keeps the rule: both files are deleted after they were
imported. -/
theorem worker_noLoss_twoFiles :
    (twoFilesRun none 2).state.location 2 = .deleted ∧
      ∃ rest, (.finished (some 2) true :: rest) <:+ (twoFilesRun none 2).state.trace ∧
        Imported (currentCall rest) 2 := by
  have hdel : (twoFilesRun none 2).state.location 2 = .deleted := by decide
  refine ⟨hdel, ?_⟩
  have hkeeps : ∀ k, k < 2 → (twoFilesRun none k).Keeps (twoFiles none) := by
    intro k hk t files hcall
    rcases Nat.lt_or_ge k 1 with h0 | h1
    · obtain rfl : k = 0 := by omega
      cases hcall
    · obtain rfl : k = 1 := by omega
      have hnext : (twoFilesRun none 1).nextCall (twoFiles none) = some (2, [1, 2]) := by decide
      rw [hnext] at hcall
      cases hcall
      refine Or.inr fun f hf => ?_
      rcases List.mem_cons.mp hf with rfl | hf
      · exact ⟨0, rfl, rfl, Or.inr ⟨rfl, rfl⟩⟩
      · rw [List.mem_singleton] at hf
        subst hf
        exact ⟨1, rfl, rfl, Or.inr ⟨rfl, rfl⟩⟩
  exact ((worker_noLoss (twoFiles none) numberedFiles deleting).2 (Reader.empty 1) [] 2
    hkeeps).2 2 (Or.inr hdel)

/-- The stop request comes before the second file: it is deleted, and its row is in no
transaction. -/
theorem stopped_worker_loses_file :
    (twoFilesRun (some 4) 2).state.location 2 = .deleted ∧
      (twoFilesRun (some 4) 2).state.database = [1] ∧
      ¬ GoodOnlyIfImported (twoFilesRun (some 4) 2).state.trace := by
  refine ⟨by decide, by decide, fun h => ?_⟩
  have htrace : (twoFilesRun (some 4) 2).state.trace =
      [.finished (some 2) true, .finished (some 1) true, .committed, .parsed 1 1,
        .importFiles] := by decide
  rw [htrace] at h
  have himported := h 2 _ List.suffix_rfl
  rw [show currentCall [.finished (some 1) true, .committed, .parsed 1 1, .importFiles] =
    [.finished (some 1) true, .committed, .parsed (1 : Nat) 1] by decide] at himported
  simp [Imported] at himported

end HiPerConTracer.Importer
