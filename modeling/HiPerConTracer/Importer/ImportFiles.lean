import HiPerConTracer.Importer.Worker

/-!
# What `importFiles` does

The lemmas say once what each part of an import does with the state, in terms of the environment
alone: `reached` are the files that the parsing loop gets to before a stop request, and each of
them contributes its rows (`fileRows`), its action (`fileAction`) or an exception
(`fileException`).

    importAttempt throws ↔ ImportFails env s.clock files                     (importAttempt_throws)
    otherwise the state is the one of `attemptDone`                           (importAttempt_done)
-/

namespace HiPerConTracer.Importer

variable {File Entry Row : Type} (env : Environment File Row)

/-! ## One file -/

/-- The file has contents and they can be read. -/
def readable (t : Nat) (f : File) : Prop := env.fileSize t f ≠ some 0 ∧ env.openStream t f = true

instance (t : Nat) (f : File) : Decidable (readable env t f) := inferInstanceAs (Decidable (_ ∧ _))

def fileException (t : Nat) (f : File) : Option ResultsException :=
  if readable env t f then (env.parseContents t f).2 else none

def fileRows (t : Nat) (f : File) : List Row :=
  if readable env t f then (env.parseContents t f).1 else []

def fileAction (t : Nat) (f : File) : Action File :=
  if env.fileSize t f = some 0 then .emptyFile f
  else if env.openStream t f then parsedAction env t f (env.parseContents t f).1.length
  else .notOpened f

/-- The state with the rows of a file in the statement. -/
def State.addRows (s : State File Entry Row) (rs : List Row) : State File Entry Row :=
  { s with statement := s.statement ++ rs, rows := s.rows + rs.length }

theorem addRows_nil (s : State File Entry Row) : s.addRows [] = s := by
  simp [State.addRows]

theorem processFile_eq (s : State File Entry Row) (f : File) :
    processFile env s f =
      match fileException env s.clock f with
      | none => ((s.addRows (fileRows env s.clock f)).log (fileAction env s.clock f), none)
      | some e => (s.addRows (fileRows env s.clock f), some e) := by
  unfold processFile fileException fileRows fileAction readable
  by_cases h0 : env.fileSize s.clock f = some 0
  · simp [h0, addRows_nil]
  · by_cases ho : env.openStream s.clock f = true
    · simp only [h0, ho, if_false, if_true, ne_eq, not_false_eq_true, and_self]
      cases (env.parseContents s.clock f).2 <;> rfl
    · simp [h0, ho, addRows_nil]

/-! ## The parsing loop -/

/-- The files the loop gets to, each with its moment. -/
def reached (t : Nat) : List File → List (Nat × File)
  | [] => []
  | f :: fs => if env.stopRequested t then [] else (t, f) :: reached (t + 1) fs

def readingFails (t : Nat) (files : List File) : Prop :=
  ∃ p ∈ reached env t files, (fileException env p.1 p.2).isSome

def rowsRead (t : Nat) (files : List File) : List Row :=
  (reached env t files).flatMap fun p => fileRows env p.1 p.2

/-- The moment at which the loop is left. -/
def endOfReading (t : Nat) (files : List File) : Nat := t + (reached env t files).length

/-- The actions of the loop, the latest first. -/
def readingTrace (t : Nat) (files : List File) : List (Action File) :=
  ((reached env t files).map fun p => fileAction env p.1 p.2).reverse

theorem stopRequested_mono {t t' : Nat} (ht : t ≤ t') (h : env.stopRequested t = true) :
    env.stopRequested t' = true := by
  unfold Environment.stopRequested at h ⊢
  cases hs : env.stopAt with
  | none => simp [hs] at h
  | some stop =>
    simp only [hs, decide_eq_true_eq] at h ⊢
    omega

/-- A file is reached at its place in the list if no stop request has come by then. -/
theorem mem_reached_iff {t m : Nat} {files : List File} {f : File} :
    (m, f) ∈ reached env t files ↔
      ∃ i, m = t + i ∧ files[i]? = some f ∧ env.stopRequested m = false := by
  induction files generalizing t with
  | nil => simp [reached]
  | cons g fs ih =>
    unfold reached
    by_cases hs : env.stopRequested t = true
    · simp only [hs, if_true, List.not_mem_nil, false_iff]
      rintro ⟨i, rfl, -, hm⟩
      rw [stopRequested_mono env (by omega) hs] at hm
      cases hm
    · rw [if_neg hs, List.mem_cons, ih]
      constructor
      · rintro (h | ⟨i, rfl, hf, hm⟩)
        · obtain ⟨rfl, rfl⟩ := Prod.mk.inj h
          exact ⟨0, rfl, rfl, by simpa using hs⟩
        · exact ⟨i + 1, by omega, by simpa using hf, hm⟩
      · rintro ⟨i, rfl, hf, hm⟩
        cases i with
        | zero =>
          simp only [List.getElem?_cons_zero, Option.some.injEq] at hf
          exact Or.inl (by rw [hf]; rfl)
        | succ i => exact Or.inr ⟨i, by omega, by simpa using hf, hm⟩

/-- If no file that is reached is rejected, the loop ends with all their rows in the statement. -/
theorem parseFiles_ok (s : State File Entry Row) (cur : Option File) (files : List File)
    (h : ¬ readingFails env s.clock files) :
    ∃ last, (∀ f, last = some f → f ∈ files ∨ cur = some f) ∧ (last = none → files = []) ∧
      parseFiles env s cur files =
      ({ s with clock := endOfReading env s.clock files,
                statement := s.statement ++ rowsRead env s.clock files,
                rows := s.rows + (rowsRead env s.clock files).length,
                trace := readingTrace env s.clock files ++ s.trace }, last, none) := by
  induction files generalizing s cur with
  | nil =>
    exact ⟨cur, fun f h => Or.inr h, fun _ => rfl,
      by simp [parseFiles, endOfReading, rowsRead, readingTrace, reached]⟩
  | cons f fs ih =>
    unfold parseFiles
    by_cases hs : env.stopRequested s.clock = true
    · refine ⟨some f, fun g h => Or.inl ?_, by simp, ?_⟩
      · cases h
        exact List.mem_cons_self
      · simp [hs, endOfReading, rowsRead, readingTrace, reached]
    · have hr : reached env s.clock (f :: fs) = (s.clock, f) :: reached env (s.clock + 1) fs := by
        rw [reached, if_neg hs]
      unfold readingFails at h
      rw [hr] at h
      have hf : fileException env s.clock f = none := by
        cases he : fileException env s.clock f with
        | none => rfl
        | some e => exact absurd ⟨_, List.mem_cons_self, by simp [he]⟩ h
      rw [if_neg hs, processFile_eq, hf]
      obtain ⟨last, hlast, hsome, hl⟩ := ih (((s.addRows (fileRows env s.clock f)).log
        (fileAction env s.clock f)).tick) (some f)
        (fun ⟨p, hp, he⟩ => h ⟨p, List.mem_cons_of_mem _ hp, he⟩)
      refine ⟨last, fun g hg => Or.inl ?_, ?_, hl.trans ?_⟩
      · rcases hlast g hg with hin | heq
        · exact List.mem_cons_of_mem _ hin
        · cases heq
          exact List.mem_cons_self
      · intro hnone
        obtain rfl := hsome hnone
        have hcur : some f = last := congrArg (fun r => r.2.1) hl
        rw [hnone] at hcur
        cases hcur
      simp only [endOfReading, rowsRead, readingTrace, hr, List.length_cons, List.flatMap_cons,
        List.map_cons, List.reverse_cons, List.length_append, State.addRows, State.log, State.tick,
        List.append_assoc, List.singleton_append]
      simp only [Nat.add_assoc, Nat.add_comm]

/-- The actions that only read. -/
def Action.reading : Action File → Prop
  | .emptyFile _ | .notOpened _ | .parsed _ _ | .partlyParsed _ _ => True
  | _ => False

/-- The second state comes from the first by reading only. -/
structure State.OnlyRead (s s' : State File Entry Row) : Prop where
  database : s'.database = s.database
  reader : s'.reader = s.reader
  location : s'.location = s.location
  trace : ∃ new, (∀ a ∈ new, Action.reading a) ∧ s'.trace = new ++ s.trace

theorem State.OnlyRead.refl_trace {s s' : State File Entry Row} (h1 : s'.database = s.database)
    (h2 : s'.reader = s.reader) (h3 : s'.location = s.location) (h4 : s'.trace = s.trace) :
    s.OnlyRead s' := ⟨h1, h2, h3, [], by simp, by simp [h4]⟩

theorem State.OnlyRead.trans {s s' s'' : State File Entry Row} (h : s.OnlyRead s')
    (h' : s'.OnlyRead s'') : s.OnlyRead s'' := by
  obtain ⟨new, hn, ht⟩ := h.trace
  obtain ⟨new', hn', ht'⟩ := h'.trace
  refine ⟨h'.database.trans h.database, h'.reader.trans h.reader, h'.location.trans h.location,
    new' ++ new, ?_, by rw [ht', ht, List.append_assoc]⟩
  intro a ha
  rcases List.mem_append.mp ha with ha | ha
  · exact hn' a ha
  · exact hn a ha

theorem fileAction_reading (t : Nat) (f : File) : (fileAction env t f).reading := by
  unfold fileAction parsedAction
  split
  · trivial
  · split
    · split <;> trivial
    · trivial

theorem readingTrace_reading (t : Nat) (files : List File) :
    ∀ a ∈ readingTrace env t files, a.reading := by
  intro a ha
  unfold readingTrace at ha
  rw [List.mem_reverse, List.mem_map] at ha
  obtain ⟨p, -, rfl⟩ := ha
  exact fileAction_reading env _ _

/-- If a file that is reached is rejected, the loop throws what that file throws, after reading
only. -/
theorem parseFiles_throws (s : State File Entry Row) (cur : Option File) (files : List File)
    (h : readingFails env s.clock files) :
    ∃ s' f e, f ∈ files ∧ (∃ t, fileException env t f = some e) ∧ s.OnlyRead s' ∧
      parseFiles env s cur files = (s', some f, some e) := by
  induction files generalizing s cur with
  | nil => obtain ⟨p, hp, -⟩ := h; simp [reached] at hp
  | cons f fs ih =>
    unfold parseFiles
    obtain ⟨p, hp, he⟩ := h
    unfold reached at hp
    by_cases hs : env.stopRequested s.clock = true
    · simp [hs] at hp
    · rw [if_neg hs] at hp ⊢
      rw [processFile_eq]
      cases hf : fileException env s.clock f with
      | some e =>
        refine ⟨_, f, e, List.mem_cons_self, ⟨_, hf⟩, ?_, rfl⟩
        exact State.OnlyRead.refl_trace rfl rfl rfl rfl
      | none =>
        have hp' : p ∈ reached env (s.clock + 1) fs := by
          rcases List.mem_cons.mp hp with rfl | hp
          · rw [hf] at he; simp at he
          · exact hp
        obtain ⟨s', g, e, hg, hge, hread, hl⟩ := ih (((s.addRows (fileRows env s.clock f)).log
          (fileAction env s.clock f)).tick) (some f) ⟨p, hp', he⟩
        refine ⟨s', g, e, List.mem_cons_of_mem _ hg, hge, State.OnlyRead.trans ?_ hread, hl⟩
        refine ⟨rfl, rfl, rfl, [fileAction env s.clock f], ?_, rfl⟩
        simpa using fileAction_reading env s.clock f

/-! ## The whole attempt -/

/-- Some step of the attempt that starts at moment `t` throws. -/
def ImportFails (t : Nat) (files : List File) : Prop :=
  (env.startTransaction t).isSome ∨ (env.beginParsing t).isSome ∨
  readingFails env (t + 1) files ∨
  (rowsRead env (t + 1) files = [] ∧ (env.rollback (endOfReading env (t + 1) files)).isSome) ∨
  (rowsRead env (t + 1) files ≠ [] ∧
    ((env.executeUpdate (endOfReading env (t + 1) files) (rowsRead env (t + 1) files)).isSome ∨
      (env.commit (endOfReading env (t + 1) files)).isSome))

/-- The state at the end of an attempt in which nothing is thrown. -/
def attemptDone (s : State File Entry Row) (files : List File) : State File Entry Row :=
  let rs := rowsRead env (s.clock + 1) files
  { s with clock := endOfReading env (s.clock + 1) files
           statement := []
           rows := rs.length
           transaction := none
           database := s.database ++ rs
           trace := (if rs = [] then .rolledBack else .committed) ::
             (readingTrace env (s.clock + 1) files ++ s.trace) }

theorem importAttempt_done (s : State File Entry Row) (files : List File)
    (h : ¬ ImportFails env s.clock files) :
    ∃ last, importAttempt env s files = (attemptDone env s files, last, none) := by
  unfold ImportFails at h
  simp only [not_or] at h
  obtain ⟨h1, h2, h3, h4, h5⟩ := h
  simp only [Option.not_isSome_iff_eq_none] at h1 h2
  unfold importAttempt begin
  simp only [h1, h2]
  obtain ⟨last, -, -, hl⟩ := parseFiles_ok env
    ({ s with transaction := some [], statement := [], rows := 0 }.tick) none files h3
  refine ⟨last, ?_⟩
  rw [hl]
  simp only [State.tick, List.nil_append, Nat.zero_add]
  unfold finishParsing attemptDone
  by_cases hr : rowsRead env (s.clock + 1) files = []
  · have hroll : env.rollback (endOfReading env (s.clock + 1) files) = none := by
      rw [← Option.not_isSome_iff_eq_none]
      exact fun he => h4 ⟨hr, he⟩
    simp [hr, rollback, hroll, State.log]
  · have hpos : (rowsRead env (s.clock + 1) files).length > 0 := List.length_pos_iff.mpr hr
    have hexec : env.executeUpdate (endOfReading env (s.clock + 1) files)
        (rowsRead env (s.clock + 1) files) = none := by
      rw [← Option.not_isSome_iff_eq_none]
      exact fun he => h5 ⟨hr, Or.inl he⟩
    have hcommit : env.commit (endOfReading env (s.clock + 1) files) = none := by
      rw [← Option.not_isSome_iff_eq_none]
      exact fun he => h5 ⟨hr, Or.inr he⟩
    simp [hr, hpos, commit, hexec, hcommit, State.log]

/-- The steps of an attempt that an exception can come from. -/
inductive Throws : ResultsException → Prop where
  | startTransaction (t : Nat) {e : ResultsException} : env.startTransaction t = some e → Throws e
  | beginParsing (t : Nat) {e : ResultsException} : env.beginParsing t = some e → Throws e
  | parseContents (t : Nat) (f : File) {e : ResultsException} :
      fileException env t f = some e → Throws e
  | executeUpdate (t : Nat) (rs : List Row) {e : ResultsException} :
      env.executeUpdate t rs = some e → Throws e
  | commit (t : Nat) {e : ResultsException} : env.commit t = some e → Throws e
  | rollback (t : Nat) {e : ResultsException} : env.rollback t = some e → Throws e

/-- An attempt that throws has only read.  If the transaction was begun, a file is set. -/
theorem importAttempt_throws (s : State File Entry Row) (files : List File)
    (h : ImportFails env s.clock files) :
    ∃ s' last e, (∀ f, last = some f → f ∈ files) ∧ s.OnlyRead s' ∧ Throws env e ∧
      ((∀ t, env.startTransaction t = none) → (∀ t, env.beginParsing t = none) → last = none →
        files = []) ∧
      importAttempt env s files = (s', last, some e) := by
  unfold importAttempt begin
  cases h1 : env.startTransaction s.clock with
  | some e =>
    refine ⟨_, none, e, by simp, ?_, .startTransaction _ h1, fun hs => ?_, rfl⟩
    · exact State.OnlyRead.refl_trace rfl rfl rfl rfl
    · rw [hs] at h1
      cases h1
  | none =>
    cases h2 : env.beginParsing s.clock with
    | some e =>
      refine ⟨_, none, e, by simp, ?_, .beginParsing _ h2, fun _ hb => ?_, rfl⟩
      · exact State.OnlyRead.refl_trace rfl rfl rfl rfl
      · rw [hb] at h2
        cases h2
    | none =>
      simp only
      by_cases h3 : readingFails env (s.clock + 1) files
      · obtain ⟨s', f, e, hf, ⟨t, ht⟩, hread, hl⟩ := parseFiles_throws env
          ({ s with transaction := some [], statement := [], rows := 0 }.tick) none files h3
        rw [hl]
        have hbegin : s.OnlyRead
            ({ s with transaction := some [], statement := [], rows := 0 }.tick) :=
          State.OnlyRead.refl_trace rfl rfl rfl rfl
        exact ⟨s', some f, e, fun g hg => by cases hg; exact hf, hbegin.trans hread,
          .parseContents t f ht, by simp, rfl⟩
      · -- all files were read, so the statement or the end of the transaction throws
        obtain ⟨last, hin, hsome, hl⟩ := parseFiles_ok env
          ({ s with transaction := some [], statement := [], rows := 0 }.tick) none files h3
        have hlast : ∀ f, last = some f → f ∈ files := fun f hf =>
          (hin f hf).resolve_right (by simp)
        have hnew := readingTrace_reading env (s.clock + 1) files
        rw [hl]
        simp only [State.tick, List.nil_append, Nat.zero_add]
        unfold finishParsing
        rcases h with h | h | h | ⟨hr, h⟩ | ⟨hr, h⟩
        · simp [h1] at h
        · simp [h2] at h
        · exact absurd h h3
        · obtain ⟨e, he⟩ := Option.isSome_iff_exists.mp h
          simp only [hr, rollback, he, List.length_nil, gt_iff_lt, Nat.lt_irrefl, if_false]
          refine ⟨_, last, e, hlast, ?_, .rollback _ he, fun _ _ => hsome, rfl⟩
          exact ⟨rfl, rfl, rfl, _, hnew, rfl⟩
        · have hpos : (rowsRead env (s.clock + 1) files).length > 0 := List.length_pos_iff.mpr hr
          simp only [hpos, if_true]
          cases hx : env.executeUpdate (endOfReading env (s.clock + 1) files)
              (rowsRead env (s.clock + 1) files) with
          | some e =>
            refine ⟨_, last, e, hlast, ?_, .executeUpdate _ _ hx, fun _ _ => hsome, rfl⟩
            exact ⟨rfl, rfl, rfl, _, hnew, rfl⟩
          | none =>
            obtain ⟨e, he⟩ := Option.isSome_iff_exists.mp (h.resolve_left (by simp [hx]))
            simp only [commit, he]
            refine ⟨_, last, e, hlast, ?_, .commit _ he, fun _ _ => hsome, rfl⟩
            exact ⟨rfl, rfl, rfl, _, hnew, rfl⟩

/-! ## The whole call -/

/-- Neither a call begins nor a file is finished as good. -/
def Action.neutral : Action File → Prop
  | .importFiles | .finished _ true => False
  | _ => True

theorem Action.reading.neutral {a : Action File} (h : a.reading) : a.neutral := by
  cases a <;> trivial

/-- Nothing is lost on the way from the first state to the second: the database is the same, no
file is finished as good, and files move to the bad directory only. -/
structure State.Unlost (s s' : State File Entry Row) : Prop where
  database : s'.database = s.database
  location : ∀ f, s'.location f = s.location f ∨ s'.location f = .badDirectory
  trace : ∃ new, (∀ a ∈ new, Action.neutral a) ∧ s'.trace = new ++ s.trace

theorem State.OnlyRead.unlost {s s' : State File Entry Row} (h : s.OnlyRead s') : s.Unlost s' := by
  obtain ⟨new, hn, ht⟩ := h.trace
  exact ⟨h.database, fun f => Or.inl (by rw [h.location]), new, fun a ha => (hn a ha).neutral, ht⟩

theorem State.Unlost.trans {s s' s'' : State File Entry Row} (h : s.Unlost s')
    (h' : s'.Unlost s'') : s.Unlost s'' := by
  obtain ⟨new, hn, ht⟩ := h.trace
  obtain ⟨new', hn', ht'⟩ := h'.trace
  refine ⟨h'.database.trans h.database, ?_, new' ++ new, ?_, by rw [ht', ht, List.append_assoc]⟩
  · intro f
    rcases h'.location f with hl | hl
    · rw [hl]
      exact h.location f
    · exact Or.inr hl
  · intro a ha
    rcases List.mem_append.mp ha with ha | ha
    · exact hn' a ha
    · exact hn a ha

theorem reconnect_unlost (s : State File Entry Row) : s.Unlost (reconnect env s).1 := by
  unfold reconnect
  cases env.reconnect s.clock <;>
    exact ⟨rfl, fun f => Or.inl rfl, [], by simp, rfl⟩

section
variable [DecidableEq File] [LinearOrder Entry] (ops : FileEntry File Entry) (cfg : Configuration)

omit [LinearOrder Entry] in
/-- The disposal changes at most the place of the file. -/
theorem dispose_cases (s : State File Entry Row) (f : File) (success : Bool) :
    dispose env cfg s f success = s ∨
    ∃ l, (success = false → l = .badDirectory) ∧
      dispose env cfg s f success = s.setLocation f l := by
  unfold dispose deleteImportedFile moveImportedFile
  cases success with
  | true =>
    simp only [if_true]
    cases cfg.importMode with
    | keepImportedFiles => exact Or.inl rfl
    | moveImportedFiles =>
      simp only
      split
      · exact Or.inr ⟨_, by simp, rfl⟩
      · exact Or.inl rfl
    | deleteImportedFiles =>
      simp only
      split
      · exact Or.inr ⟨_, by simp, rfl⟩
      · exact Or.inl rfl
  | false =>
    simp only [Bool.false_eq_true, if_false]
    split
    · exact Or.inr ⟨_, fun _ => rfl, rfl⟩
    · exact Or.inl rfl

/-- What `finishedFile` does with the state: the file leaves the reader, its end is logged, and at
most its place changes. -/
structure State.Finished (s s' : State File Entry Row) (f : File) (success : Bool) : Prop where
  database : s'.database = s.database
  reader : s'.reader = (removeFile ops s.reader f).1
  location : ∀ g, s'.location g = s.location g ∨
    g = f ∧ (success = false → s'.location g = .badDirectory)
  trace : ∃ new, (∀ a ∈ new, a = .assertionFailed) ∧
    s'.trace = new ++ .finished (some f) success :: s.trace

theorem finishedFile_finished (s : State File Entry Row) (f : File) (success : Bool) :
    s.Finished ops (finishedFile env ops cfg s (some f) success) f success := by
  have hdispose : ∃ loc, (∀ g, loc g = s.location g ∨
        g = f ∧ (success = false → loc g = .badDirectory)) ∧
      dispose env cfg (s.log (.finished (some f) success)) f success =
        { s.log (.finished (some f) success) with location := loc } := by
    rcases dispose_cases env cfg (s.log (.finished (some f) success)) f success with h | ⟨l, hl, h⟩
    · exact ⟨s.location, fun g => Or.inl rfl, h⟩
    · refine ⟨fun g => if g = f then l else s.location g, fun g => ?_, h⟩
      by_cases hg : g = f
      · exact Or.inr ⟨hg, fun hs => (if_pos hg).trans (hl hs)⟩
      · exact Or.inl (if_neg hg)
  obtain ⟨loc, hloc, heq⟩ := hdispose
  unfold finishedFile
  simp only [heq]
  simp only [State.log]
  cases hr : removeFile ops s.reader f with
  | mk r removed =>
    cases removed with
    | true => exact ⟨rfl, by rw [hr]; rfl, hloc, [], by simp, rfl⟩
    | false => exact ⟨rfl, by rw [hr]; rfl, hloc, [.assertionFailed], by simp, rfl⟩

/-- A file that is finished as bad goes to the bad directory if it can be moved. -/
theorem finishedFile_bad_unlost (s : State File Entry Row) (file : Option File) :
    s.Unlost (finishedFile env ops cfg s file false) := by
  cases file with
  | none =>
    exact ⟨rfl, fun f => Or.inl rfl, [.assertionFailed, .finished none false],
      by simp [Action.neutral], rfl⟩
  | some f =>
    have h := finishedFile_finished env ops cfg s f false
    obtain ⟨new, hn, ht⟩ := h.trace
    refine ⟨h.database, fun g => ?_, new ++ [.finished (some f) false], ?_, by simp [ht]⟩
    · rcases h.location g with hl | ⟨-, hl⟩
      · exact Or.inl hl
      · exact Or.inr (hl rfl)
    · intro a ha
      rcases List.mem_append.mp ha with ha | ha
      · rw [hn a ha]
        trivial
      · rw [List.mem_singleton.mp ha]
        trivial

theorem rollbackHandler_unlost (s : State File Entry Row) (bad : Bool) (file : Option File) :
    s.Unlost (rollbackHandler env ops cfg s bad file).1 ∧
      (rollbackHandler env ops cfg s bad file).2 ≠ .returned true := by
  unfold rollbackHandler rollback
  cases hr : env.rollback s.clock with
  | none =>
    have hroll : s.Unlost ({ s with transaction := none }.log .rolledBack) :=
      ⟨rfl, fun f => Or.inl rfl, [.rolledBack], by simp [Action.neutral], rfl⟩
    cases bad with
    | true => exact ⟨hroll.trans (finishedFile_bad_unlost env ops cfg _ file), by simp⟩
    | false => exact ⟨hroll, by simp⟩
  | some e =>
    simp only
    split
    · refine ⟨reconnect_unlost env s, ?_⟩
      unfold reconnect
      split <;> simp
    · exact ⟨⟨rfl, fun f => Or.inl rfl, [], by simp, rfl⟩, by simp⟩

/-- A call in which nothing is thrown finishes all its files as good. -/
theorem importFiles_done (s : State File Entry Row) (files : List File)
    (h : ¬ ImportFails env s.clock files) :
    importFiles env ops cfg s files =
      (finishFiles env ops cfg (attemptDone env (s.log .importFiles) files) files,
        .returned true) := by
  obtain ⟨last, hl⟩ := importAttempt_done env (s.log .importFiles) files h
  unfold importFiles
  rw [hl]

/-- A call in which something is thrown loses nothing, whatever the handlers do. -/
theorem importFiles_fails (s : State File Entry Row) (files : List File)
    (h : ImportFails env s.clock files) :
    (s.log .importFiles).Unlost (importFiles env ops cfg s files).1 ∧
      (importFiles env ops cfg s files).2 ≠ .returned true := by
  obtain ⟨s', last, e, -, hread, -, -, hl⟩ := importAttempt_throws env (s.log .importFiles) files h
  unfold importFiles
  rw [hl]
  have handler : ∀ bad, (s.log .importFiles).Unlost (rollbackHandler env ops cfg s' bad last).1 ∧
      (rollbackHandler env ops cfg s' bad last).2 ≠ .returned true := by
    intro bad
    obtain ⟨hu, hr⟩ := rollbackHandler_unlost env ops cfg s' bad last
    exact ⟨hread.unlost.trans hu, hr⟩
  cases e with
  | readerDataError => exact handler _
  | databaseDataError => exact handler _
  | other => exact handler _
  | database =>
    refine ⟨hread.unlost.trans (reconnect_unlost env s'), ?_⟩
    simp only [reconnect]
    split <;> simp

end

end HiPerConTracer.Importer
