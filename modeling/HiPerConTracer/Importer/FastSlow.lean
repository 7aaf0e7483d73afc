import Mathlib.Data.List.Dedup
import Mathlib.Data.List.Perm.Basic
import HiPerConTracer.Importer.NoDataLoss

/-!
# Fast import against slow import

With a transactional database, and nothing failing but the contents of files, a list that is
handled by `Worker::run` is treated file by file, whichever mode does it: its files add their rows
if they are good, they are finished as good or bad, and each is removed once (`Handled`):

    Handled c ops s (handleList env ops cfg s files) files              (handleList_handled)

The import is right if that is once for each file.  A file that waits in both priority queues is
fetched twice, or removed from one of its two queues only:

    Agrees … ↔ every file in both queues is in the list twice, with nothing to commit
                                                                        (handleList_agrees_iff)
-/

namespace HiPerConTracer.Importer

/-! ## Repeated elements -/

section
variable {α β : Type} [DecidableEq α]

theorem flatMap_dedup_length_le (g : α → List β) (l : List α) :
    (l.dedup.flatMap g).length ≤ (l.flatMap g).length := by
  induction l with
  | nil => exact Nat.le_refl _
  | cons a l ih =>
    by_cases ha : a ∈ l
    · rw [List.dedup_cons_of_mem ha, List.flatMap_cons, List.length_append]
      omega
    · rw [List.dedup_cons_of_notMem ha, List.flatMap_cons, List.flatMap_cons, List.length_append,
        List.length_append]
      omega

/-- Repeated elements do not matter exactly if they contribute nothing. -/
theorem flatMap_dedup_perm_iff (g : α → List β) (l : List α) :
    (l.flatMap g).Perm (l.dedup.flatMap g) ↔ ∀ a ∈ l, 1 < l.count a → g a = [] := by
  induction l with
  | nil => simp
  | cons a l ih =>
    by_cases ha : a ∈ l
    · rw [List.dedup_cons_of_mem ha, List.flatMap_cons]
      have hcount : 1 < (a :: l).count a := by
        have := List.count_pos_iff.mpr ha
        rw [List.count_cons_self]
        omega
      constructor
      · intro h
        have hlen := h.length_eq
        have hle := flatMap_dedup_length_le g l
        rw [List.length_append] at hlen
        have hga : g a = [] := List.length_eq_zero_iff.mp (by omega)
        rw [hga, List.nil_append] at h
        intro b hb hb1
        by_cases hba : b = a
        · rw [hba, hga]
        · rw [List.count_cons_of_ne (Ne.symm hba)] at hb1
          exact ih.mp h b ((List.mem_cons.mp hb).resolve_left hba) hb1
      · intro h
        rw [h a List.mem_cons_self hcount, List.nil_append]
        refine ih.mpr fun b hb hb1 => h b (List.mem_cons_of_mem _ hb) ?_
        exact Nat.lt_of_lt_of_le hb1 (List.count_le_count_cons ..)
    · rw [List.dedup_cons_of_notMem ha, List.flatMap_cons, List.flatMap_cons,
        List.perm_append_left_iff, ih]
      constructor
      · intro h b hb hb1
        rcases List.mem_cons.mp hb with rfl | hb
        · rw [List.count_cons_self, List.count_eq_zero_of_not_mem ha] at hb1
          omega
        · have hba : a ≠ b := fun heq => ha (heq ▸ hb)
          rw [List.count_cons_of_ne hba] at hb1
          exact h b hb hb1
      · intro h b hb hb1
        refine h b (List.mem_cons_of_mem _ hb) ?_
        exact Nat.lt_of_lt_of_le hb1 (List.count_le_count_cons ..)

end

/-! ## Contents -/

variable {File Entry Row : Type}

/-- What decides about a file: its size, what parsing it gives, and the rows that the database
rejects. -/
structure Contents (File Row : Type) where
  size : File → Option Nat
  parse : File → List Row × Option ResultsException
  rejected : Row → Bool

namespace Contents
variable (c : Contents File Row)

def rows (f : File) : List Row := if c.size f = some 0 then [] else (c.parse f).1

def exception (f : File) : Option ResultsException :=
  if c.size f = some 0 then none else (c.parse f).2

/-- The file imports when it is imported alone. -/
def good (f : File) : Bool := (c.exception f).isNone && !(c.rows f).any c.rejected

def committedRows (f : File) : List Row := if c.good f then c.rows f else []

end Contents

/-- An environment in which only contents fail: no stop request, no lost connection, all files can
be opened, and a statement is rejected exactly if it has a row that is rejected. -/
structure Transactional (env : Environment File Row) (c : Contents File Row) : Prop where
  stopAt : env.stopAt = none
  startTransaction : ∀ t, env.startTransaction t = none
  beginParsing : ∀ t, env.beginParsing t = none
  fileSize : ∀ t f, env.fileSize t f = c.size f
  openStream : ∀ t f, env.openStream t f = true
  parseContents : ∀ t f, env.parseContents t f = c.parse f
  parseError : ∀ f e, (c.parse f).2 = some e → e.isDatabaseException = false
  executeUpdate : ∀ t rs,
    env.executeUpdate t rs = if rs.any c.rejected then some .databaseDataError else none
  commit : ∀ t, env.commit t = none
  rollback : ∀ t, env.rollback t = none

section
variable {env : Environment File Row} {c : Contents File Row}

theorem Transactional.stopRequested (h : Transactional env c) (t : Nat) :
    env.stopRequested t = false := by
  simp [Environment.stopRequested, h.stopAt]

theorem Transactional.readable_iff (h : Transactional env c) (t : Nat) (f : File) :
    readable env t f ↔ c.size f ≠ some 0 := by
  unfold readable
  rw [h.fileSize, h.openStream]
  exact and_iff_left rfl

theorem Transactional.fileRows (h : Transactional env c) (t : Nat) (f : File) :
    Importer.fileRows env t f = c.rows f := by
  simp only [Importer.fileRows, Contents.rows, h.readable_iff, h.parseContents, ite_not]

theorem Transactional.fileException (h : Transactional env c) (t : Nat) (f : File) :
    Importer.fileException env t f = c.exception f := by
  simp only [Importer.fileException, Contents.exception, h.readable_iff, h.parseContents, ite_not]

theorem Transactional.reached (h : Transactional env c) (t : Nat) (files : List File) :
    (Importer.reached env t files).map Prod.snd = files := by
  induction files generalizing t with
  | nil => rfl
  | cons f fs ih =>
    unfold Importer.reached
    simp [h.stopRequested, ih]

theorem Transactional.rowsRead (h : Transactional env c) (t : Nat) (files : List File) :
    Importer.rowsRead env t files = files.flatMap c.rows := by
  unfold Importer.rowsRead
  conv => rhs; rw [← h.reached t files, List.flatMap_map]
  simp only [h.fileRows]

theorem Transactional.readingFails_iff (h : Transactional env c) (t : Nat) (files : List File) :
    readingFails env t files ↔ ∃ f ∈ files, (c.exception f).isSome := by
  unfold readingFails
  simp only [h.fileException]
  constructor
  · rintro ⟨p, hp, he⟩
    refine ⟨p.2, ?_, he⟩
    rw [← h.reached t files]
    exact List.mem_map_of_mem hp
  · rintro ⟨f, hf, he⟩
    rw [← h.reached t files] at hf
    obtain ⟨p, hp, rfl⟩ := List.mem_map.mp hf
    exact ⟨p, hp, he⟩

/-- An import throws exactly if one of its files is bad. -/
theorem Transactional.importFails_iff (h : Transactional env c) (t : Nat) (files : List File) :
    ImportFails env t files ↔ ∃ f ∈ files, c.good f = false := by
  unfold ImportFails
  rw [h.startTransaction, h.beginParsing, h.rollback, h.commit, h.executeUpdate,
    h.readingFails_iff, h.rowsRead]
  simp only [Option.isSome_none, Bool.false_eq_true, false_or, and_false, or_false]
  have hgood : ∀ f, c.good f = false ↔ (c.exception f).isSome ∨ (c.rows f).any c.rejected = true := by
    intro f
    unfold Contents.good
    cases c.exception f <;> simp
  simp only [hgood]
  constructor
  · rintro (⟨f, hf, he⟩ | ⟨-, hrej⟩)
    · exact ⟨f, hf, Or.inl he⟩
    · have hany : (files.flatMap c.rows).any c.rejected = true := by
        by_contra hne
        rw [if_neg hne] at hrej
        cases hrej
      obtain ⟨r, hr, hrr⟩ := List.any_eq_true.mp hany
      obtain ⟨f, hf, hrf⟩ := List.mem_flatMap.mp hr
      exact ⟨f, hf, Or.inr (List.any_eq_true.mpr ⟨r, hrf, hrr⟩)⟩
  · rintro ⟨f, hf, he | hrej⟩
    · exact Or.inl ⟨f, hf, he⟩
    · obtain ⟨r, hr, hrr⟩ := List.any_eq_true.mp hrej
      have hin : r ∈ files.flatMap c.rows := List.mem_flatMap.mpr ⟨f, hf, hr⟩
      refine Or.inr ⟨List.ne_nil_of_mem hin, ?_⟩
      rw [if_pos (List.any_eq_true.mpr ⟨r, hin, hrr⟩)]
      rfl

theorem Transactional.throws (h : Transactional env c) {e : ResultsException}
    (he : Throws env e) : e ≠ .database := by
  rintro rfl
  cases he with
  | startTransaction t he => rw [h.startTransaction] at he; cases he
  | beginParsing t he => rw [h.beginParsing] at he; cases he
  | parseContents t f he =>
    rw [h.fileException] at he
    unfold Contents.exception at he
    split at he
    · cases he
    · have := h.parseError f _ he
      cases this
  | executeUpdate t rs he =>
    rw [h.executeUpdate] at he
    split at he <;> cases he
  | commit t he => rw [h.commit] at he; cases he
  | rollback t he => rw [h.rollback] at he; cases he

/-! ## Handling a list file by file -/

variable [DecidableEq File] [LinearOrder Entry] (ops : FileEntry File Entry) (cfg : Configuration)

/-- The files were treated one by one: rows of the good files are added, each file is removed once
from the reader, and finished as good or bad. -/
structure Handled (c : Contents File Row) (s s' : State File Entry Row) (files : List File) :
    Prop where
  database : s'.database = s.database ++ files.flatMap c.committedRows
  reader : s'.reader = removeFiles ops s.reader files
  trace : ∃ new, s'.trace = new ++ s.trace ∧
    ∀ f b, .finished (some f) b ∈ new ↔ f ∈ files ∧ c.good f = b

omit [DecidableEq File] in
/-- The second state comes from the first without any effect on database, reader and files. -/
theorem Handled.of_same {s s' : State File Entry Row} (new : List (Action File))
    (hd : s'.database = s.database) (hr : s'.reader = s.reader) (ht : s'.trace = new ++ s.trace)
    (hn : ∀ f b, .finished (some f) b ∉ new) : Handled ops c s s' [] where
  database := by rw [hd]; simp
  reader := hr
  trace := ⟨new, ht, fun f b => ⟨fun h => absurd h (hn f b), fun h => absurd h.1 List.not_mem_nil⟩⟩

omit [DecidableEq File] in
theorem Handled.trans {s s' s'' : State File Entry Row} {files files' : List File}
    (h : Handled ops c s s' files) (h' : Handled ops c s' s'' files') :
    Handled ops c s s'' (files ++ files') := by
  obtain ⟨new, ht, hn⟩ := h.trace
  obtain ⟨new', ht', hn'⟩ := h'.trace
  refine ⟨?_, ?_, new' ++ new, by rw [ht', ht, List.append_assoc], fun f b => ?_⟩
  · rw [h'.database, h.database, List.flatMap_append, List.append_assoc]
  · rw [h'.reader, h.reader]
    exact (List.foldl_append ..).symm
  · rw [List.mem_append, hn, hn', List.mem_append]
    tauto

theorem finishFiles_handled (s : State File Entry Row) (files : List File)
    (hgood : ∀ f ∈ files, c.good f = true) :
    (finishFiles env ops cfg s files).database = s.database ∧
      (finishFiles env ops cfg s files).reader = removeFiles ops s.reader files := by
  induction files generalizing s with
  | nil => exact ⟨rfl, rfl⟩
  | cons f fs ih =>
    have h := finishedFile_finished env ops cfg s f true
    obtain ⟨hd, hr⟩ := ih (finishedFile env ops cfg s (some f) true)
      fun g hg => hgood g (List.mem_cons_of_mem _ hg)
    refine ⟨hd.trans h.database, ?_⟩
    rw [finishFiles, hr, h.reader]
    rfl

/-- Fast mode with good files only, and slow mode with a good file. -/
theorem importFiles_good (h : Transactional env c) (s : State File Entry Row) (files : List File)
    (hgood : ∀ f ∈ files, c.good f = true) :
    (importFiles env ops cfg s files).2 = .returned true ∧
      Handled ops c s (importFiles env ops cfg s files).1 files := by
  have hok : ¬ ImportFails env s.clock files := by
    rw [h.importFails_iff]
    rintro ⟨f, hf, hb⟩
    rw [hgood f hf] at hb
    cases hb
  obtain ⟨new, hn, hall, ht⟩ := importFiles_done_trace env ops cfg s files hok
  have hdone := importFiles_done env ops cfg s files hok
  refine ⟨by rw [hdone], ?_, ?_, ?_⟩
  · rw [hdone, (finishFiles_handled ops cfg _ files hgood).1]
    simp only [attemptDone, State.log, h.rowsRead]
    congr 1
    refine List.flatMap_congr fun f hf => ?_
    rw [Contents.committedRows, if_pos (hgood f hf)]
  · rw [hdone, (finishFiles_handled ops cfg _ files hgood).2]
    rfl
  · refine ⟨new ++ doneCall env [] (s.clock + 1) files ++ [.importFiles], by rw [ht]; simp, ?_⟩
    intro f b
    have hnot : .finished (some f) b ∉ doneCall env [] (s.clock + 1) files := by
      intro hin
      rcases List.mem_cons.mp hin with heq | hin
      · split at heq <;> cases heq
      · exact (readingTrace_reading env _ _ _ hin).elim
    have hlast : .finished (some f) b ∉ [(Action.importFiles : Action File)] := by simp
    rw [List.mem_append, List.mem_append]
    constructor
    · rintro ((hin | hin) | hin)
      · rcases hn _ hin with ⟨g, hg, heq⟩ | heq
        · cases heq
          exact ⟨hg, hgood f hg⟩
        · cases heq
      · exact absurd hin hnot
      · exact absurd hin hlast
    · rintro ⟨hf, hb⟩
      rw [hgood f hf] at hb
      subst hb
      exact Or.inl (Or.inl (hall f hf))

/-- An import that is rolled back: in fast mode nothing has happened, in slow mode the file is
finished as bad. -/
theorem importFiles_bad (h : Transactional env c) (s : State File Entry Row) (files : List File)
    (hbad : ∃ f ∈ files, c.good f = false) :
    (importFiles env ops cfg s files).2 = .returned false ∧
      Handled ops c s (importFiles env ops cfg s files).1
        (if files.length > 1 then [] else files) := by
  have hfail : ImportFails env (s.log .importFiles).clock files := (h.importFails_iff _ _).mpr hbad
  obtain ⟨s', last, e, hin, hread, hthrows, hsome, heq⟩ :=
    importAttempt_throws env (s.log .importFiles) files hfail
  have hne : files ≠ [] := by
    rintro rfl
    obtain ⟨f, hf, -⟩ := hbad
    cases hf
  obtain ⟨f, rfl⟩ : ∃ f, last = some f := by
    cases last with
    | none => exact absurd (hsome h.startTransaction h.beginParsing rfl) hne
    | some f => exact ⟨f, rfl⟩
  obtain ⟨new, hn, ht⟩ := hread.trace
  have hroll : ∀ bad : Bool, (bad = true ↔ ¬ files.length > 1) →
      (rollbackHandler env ops cfg s' bad (some f)).2 = .returned false ∧
      Handled ops c s (rollbackHandler env ops cfg s' bad (some f)).1
        (if files.length > 1 then [] else files) := by
    intro bad hb
    unfold rollbackHandler rollback
    simp only [h.rollback, true_and]
    have hrolled : Handled ops c s ({ s' with transaction := none }.log .rolledBack) [] := by
      refine Handled.of_same ops (.rolledBack :: (new ++ [.importFiles])) hread.database
        hread.reader ?_ ?_
      · simp [State.log, ht]
      · intro g b hg
        simp only [List.mem_cons, List.mem_append, reduceCtorEq, List.not_mem_nil, or_false,
          false_or] at hg
        exact (hn _ hg).elim
    by_cases hlen : files.length > 1
    · have hbf : bad = false := by
        cases bad with
        | false => rfl
        | true => exact absurd hlen (hb.mp rfl)
      rw [hbf, if_pos hlen]
      exact hrolled
    · -- slow mode: the file set last is the only file of the list
      obtain ⟨g, rfl⟩ : ∃ g, files = [g] := by
        cases files with
        | nil => exact absurd rfl hne
        | cons g gs =>
          cases gs with
          | nil => exact ⟨g, rfl⟩
          | cons g' gs => simp at hlen
      obtain rfl : f = g := List.mem_singleton.mp (hin f rfl)
      have hgood : c.good f = false := by
        obtain ⟨g, hg, hb⟩ := hbad
        rwa [List.mem_singleton.mp hg] at hb
      rw [hb.mpr hlen, if_neg hlen, if_pos rfl]
      have hfin := finishedFile_finished env ops cfg
        ({ s' with transaction := none }.log .rolledBack) f false
      obtain ⟨fin, hfn, hft⟩ := hfin.trace
      refine Handled.trans ops hrolled ⟨?_, hfin.reader, fin ++ [.finished (some f) false], ?_, ?_⟩
      · rw [hfin.database]
        simp [Contents.committedRows, hgood]
      · rw [hft]
        simp
      · intro g b
        rw [List.mem_append, List.mem_singleton, List.mem_singleton]
        constructor
        · rintro (hg | hg)
          · cases hfn _ hg
          · cases hg
            exact ⟨rfl, hgood⟩
        · rintro ⟨rfl, hg⟩
          rw [hgood] at hg
          exact Or.inr (by rw [← hg])
  unfold importFiles
  rw [heq]
  cases e with
  | readerDataError => exact hroll _ (by simp)
  | databaseDataError => exact hroll _ (by simp)
  | database => exact absurd rfl (h.throws hthrows)
  | other => exact hroll _ (by simp)

/-! ## The loops of `Worker::run` -/

/-- One file of the list in slow mode. -/
theorem importFiles_single (h : Transactional env c) (s : State File Entry Row) (f : File) :
    (∃ b, (importFiles env ops cfg s [f]).2 = .returned b) ∧
      Handled ops c s (importFiles env ops cfg s [f]).1 [f] := by
  cases hf : c.good f with
  | true =>
    obtain ⟨hr, hh⟩ := importFiles_good ops cfg h s [f] (by simpa using hf)
    exact ⟨⟨true, hr⟩, hh⟩
  | false =>
    obtain ⟨hr, hh⟩ := importFiles_bad ops cfg h s [f] ⟨f, List.mem_singleton_self f, hf⟩
    exact ⟨⟨false, hr⟩, hh⟩

omit [DecidableEq File] in
theorem Handled.tick {s s' : State File Entry Row} {files : List File}
    (h : Handled ops c s.tick s' files) : Handled ops c s s' files :=
  ⟨h.database, h.reader, h.trace⟩

/-- Slow mode treats the files one by one, and the worker then fetches the next list. -/
theorem slowMode_handled (h : Transactional env c) (s : State File Entry Row) (files : List File) :
    Handled ops c s (slowMode env ops cfg s files) files ∧
    ∃ n, (Worker.step env ops cfg)^[n] ⟨.slow files, s⟩ =
      fetchNext env ops cfg (slowMode env ops cfg s files) := by
  induction files generalizing s with
  | nil => exact ⟨Handled.of_same ops [] rfl rfl rfl (by simp), 1, rfl⟩
  | cons f fs ih =>
    obtain ⟨⟨b, hr⟩, hh⟩ := importFiles_single ops cfg h s.tick f
    have hs : env.stopRequested s.clock = false := h.stopRequested _
    have hpair : importFiles env ops cfg s.tick [f] =
        ((importFiles env ops cfg s.tick [f]).1, .returned b) := Prod.ext rfl hr
    have hslow : slowMode env ops cfg s (f :: fs) =
        slowMode env ops cfg (importFiles env ops cfg s.tick [f]).1 fs := by
      conv => lhs; unfold slowMode
      rw [hs, hpair]
      rfl
    have hstep : Worker.step env ops cfg ⟨.slow (f :: fs), s⟩ =
        ⟨.slow fs, (importFiles env ops cfg s.tick [f]).1⟩ := by
      simp only [Worker.step]
      rw [hs, hpair]
      rfl
    obtain ⟨hrest, n, hn⟩ := ih (importFiles env ops cfg s.tick [f]).1
    rw [hslow]
    refine ⟨(Handled.tick ops hh).trans ops hrest, n + 1, ?_⟩
    rw [Function.iterate_succ_apply, hstep, hn]

/-- Whichever mode does it, the list is handled file by file, and the worker goes on with the next
list. -/
theorem handleList_handled (h : Transactional env c) (s : State File Entry Row)
    (files : List File) :
    Handled ops c s (handleList env ops cfg s files) files ∧
    (files ≠ [] → ∃ n, (Worker.step env ops cfg)^[n] ⟨.inner files, s⟩ =
      fetchNext env ops cfg (handleList env ops cfg s files)) := by
  have hs : env.stopRequested s.clock = false := h.stopRequested _
  by_cases hgood : ∀ f ∈ files, c.good f = true
  · obtain ⟨hr, hh⟩ := importFiles_good ops cfg h s.tick files hgood
    have hpair : importFiles env ops cfg s.tick files =
        ((importFiles env ops cfg s.tick files).1, .returned true) := Prod.ext rfl hr
    have hlist : handleList env ops cfg s files = (importFiles env ops cfg s.tick files).1 := by
      unfold handleList
      rw [hpair]
    rw [hlist]
    refine ⟨Handled.tick ops hh, fun hne => ⟨1, ?_⟩⟩
    show Worker.step env ops cfg ⟨.inner files, s⟩ = _
    simp only [Worker.step]
    rw [if_pos ⟨hne, hs⟩, hpair]
  · have hbad : ∃ f ∈ files, c.good f = false := by
      push Not at hgood
      simpa using hgood
    obtain ⟨hr, hh⟩ := importFiles_bad ops cfg h s.tick files hbad
    have hpair : importFiles env ops cfg s.tick files =
        ((importFiles env ops cfg s.tick files).1, .returned false) := Prod.ext rfl hr
    by_cases hlen : files.length > 1
    · rw [if_pos hlen] at hh
      have hlist : handleList env ops cfg s files =
          slowMode env ops cfg (importFiles env ops cfg s.tick files).1 files := by
        unfold handleList
        rw [hpair]
        exact if_pos hlen
      obtain ⟨hslow, n, hn⟩ := slowMode_handled ops cfg h
        (importFiles env ops cfg s.tick files).1 files
      rw [hlist]
      refine ⟨(Handled.tick ops hh).trans ops hslow, fun hne => ⟨n + 1, ?_⟩⟩
      rw [Function.iterate_succ_apply, ← hn]
      congr 1
      simp only [Worker.step]
      rw [if_pos ⟨hne, hs⟩, hpair]
      exact if_pos hlen
    · rw [if_neg hlen] at hh
      have hlist : handleList env ops cfg s files = (importFiles env ops cfg s.tick files).1 := by
        unfold handleList
        rw [hpair]
        exact if_neg hlen
      rw [hlist]
      refine ⟨Handled.tick ops hh, fun hne => ⟨1, ?_⟩⟩
      show Worker.step env ops cfg ⟨.inner files, s⟩ = _
      simp only [Worker.step]
      rw [if_pos ⟨hne, hs⟩, hpair]
      exact if_neg hlen

/-! ## Each file once -/

/-- The import of a list is right: the rows of its good files are committed once each, exactly the
good files are finished as good and the others as bad, and no file of the list waits any more. -/
structure Agrees (c : Contents File Row) (s s' : State File Entry Row) (files : List File) :
    Prop where
  database : ∃ new, s'.database = s.database ++ new ∧
    new.Perm (files.dedup.flatMap c.committedRows)
  finished : ∃ new, s'.trace = new ++ s.trace ∧
    ∀ f b, .finished (some f) b ∈ new ↔ f ∈ files ∧ c.good f = b
  queue : ∀ f ∈ files, ∀ p, ¬ s'.reader.Waiting ops p f

/-- **Fast and slow import.**  A fetched list is handled rightly exactly if each of its files that
waits in both priority queues was fetched from both and has nothing to commit. -/
theorem handleList_agrees_iff (h : Transactional env c) {s : State File Entry Row}
    (hr : s.reader.Reachable ops) :
    let files := fetchFiles ops s.reader cfg.workerID cfg.maxTransactionSize
    (files ≠ [] → ∃ n, (Worker.step env ops cfg)^[n] ⟨.inner files, s⟩ =
      fetchNext env ops cfg (handleList env ops cfg s files)) ∧
    (Agrees ops c s (handleList env ops cfg s files) files ↔
      ∀ f ∈ files, s.reader.Waiting ops .high f ∧ s.reader.Waiting ops .low f →
        files.count f = 2 ∧ c.committedRows f = []) := by
  intro files
  obtain ⟨hh, hrun⟩ := handleList_handled ops cfg h s files
  refine ⟨hrun, ?_⟩
  obtain ⟨hq, hs⟩ := hr.invariants
  have hcount : ∀ f, files.count f ≤ s.reader.copies ops f :=
    count_fetchFiles_le ops hq hs cfg.workerID cfg.maxTransactionSize
  have hqueue : ∀ f, (∀ p, ¬ (handleList env ops cfg s files).reader.Waiting ops p f) ↔
      s.reader.copies ops f ≤ files.count f := by
    intro f
    rw [hh.reader, not_waiting_iff ops (removeFiles_invariants ops hq hs files).1,
      copies_removeFiles ops hs]
    omega
  have hrows : (∃ new, (handleList env ops cfg s files).database = s.database ++ new ∧
      new.Perm (files.dedup.flatMap c.committedRows)) ↔
      ∀ f ∈ files, 1 < files.count f → c.committedRows f = [] := by
    rw [← flatMap_dedup_perm_iff, hh.database]
    constructor
    · rintro ⟨new, heq, hp⟩
      rwa [List.append_cancel_left heq]
    · exact fun hp => ⟨_, rfl, hp⟩
  constructor
  · rintro ⟨hd, -, hw⟩ f hf hboth
    have h2 := (waiting_both_iff ops hq f).mp hboth
    have hle := (hqueue f).mp (hw f hf)
    have hc := hcount f
    exact ⟨by omega, hrows.mp hd f hf (by omega)⟩
  · intro hcond
    refine ⟨hrows.mpr fun f hf h1 => ?_, hh.trace, fun f hf => (hqueue f).mpr ?_⟩
    · have h2 := copies_le_two ops s.reader f
      have hc := hcount f
      exact (hcond f hf ((waiting_both_iff ops hq f).mpr (by omega))).2
    · have h2 := copies_le_two ops s.reader f
      have hpos : 0 < files.count f := List.count_pos_iff.mpr hf
      by_cases hboth : s.reader.copies ops f = 2
      · have := (hcond f hf ((waiting_both_iff ops hq f).mpr hboth)).1
        omega
      · omega

end

/-! ## Three files, and one file announced twice -/

/-- The environment in which nothing but contents fails. -/
def Contents.environment (c : Contents File Row) : Environment File Row where
  stopAt := none
  startTransaction := fun _ => none
  beginParsing := fun _ => none
  fileSize := fun _ => c.size
  openStream := fun _ _ => true
  parseContents := fun _ => c.parse
  streamFails := fun _ _ => false
  executeUpdate := fun _ rs => if rs.any c.rejected then some .databaseDataError else none
  commit := fun _ => none
  rollback := fun _ => none
  reconnect := fun _ => none
  remove := fun _ _ => true
  rename := fun _ _ => true
  arrivals := fun _ => []

theorem environment_transactional {c : Contents File Row}
    (h : ∀ f e, (c.parse f).2 = some e → e.isDatabaseException = false) :
    Transactional c.environment c where
  stopAt := rfl
  startTransaction := fun _ => rfl
  beginParsing := fun _ => rfl
  fileSize := fun _ _ => rfl
  openStream := fun _ _ => rfl
  parseContents := fun _ _ => rfl
  parseError := h
  executeUpdate := fun _ _ => rfl
  commit := fun _ => rfl
  rollback := fun _ => rfl

/-- Each file has its number as its only row, and the database rejects row 2. -/
def rejectsTwo : Contents Nat Nat where
  size := fun _ => some 100
  parse := fun f => ([f], none)
  rejected := fun r => r == 2

def readerAfter (announcements : List (Int × Nat)) : Reader Nat :=
  announcements.foldl (fun r a => (addFile numberedFiles r a.1 a.2).1) (Reader.empty 1)

theorem readerAfter_reachable (announcements : List (Int × Nat)) :
    (readerAfter announcements).Reachable numberedFiles := by
  unfold readerAfter
  generalize hr : Reader.empty 1 = r
  have hreach : r.Reachable numberedFiles := hr ▸ Reader.Reachable.empty 1
  clear hr
  induction announcements generalizing r with
  | nil => exact hreach
  | cons a as ih => exact ih _ (Reader.Reachable.addFile a.1 a.2 hreach)

def stateAfter (announcements : List (Int × Nat)) : State Nat Nat Nat :=
  (Worker.start (readerAfter announcements) [] : Worker Nat Nat Nat).state

/-- Three files, the second of them bad: fast mode fails, and slow mode sorts them out. -/
theorem handleList_agrees_three :
    Agrees numberedFiles rejectsTwo (stateAfter [(0, 1), (0, 2), (0, 3)])
      (handleList rejectsTwo.environment numberedFiles deleting
        (stateAfter [(0, 1), (0, 2), (0, 3)]) [1, 2, 3]) [1, 2, 3] := by
  refine ((handleList_agrees_iff numberedFiles deleting
    (environment_transactional (c := rejectsTwo) (by rintro f e ⟨⟩))
    (s := stateAfter [(0, 1), (0, 2), (0, 3)])
    (readerAfter_reachable [(0, 1), (0, 2), (0, 3)])).2).mpr ?_
  rintro f - ⟨-, w, e, he, -⟩
  have hlow : ∀ w, (stateAfter [(0, 1), (0, 2), (0, 3)]).reader.dataFileSet .low w = [] := by
    intro w
    rfl
  rw [hlow] at he
  cases he

/-- A file that is announced again when it is older than six hours is fetched twice, and fast mode
commits its row twice. -/
theorem announced_again_imported_twice :
    fetchFiles numberedFiles (stateAfter [(0, 1), (25200000000000, 1)]).reader 0 10 = [1, 1] ∧
      (handleList rejectsTwo.environment numberedFiles deleting
        (stateAfter [(0, 1), (25200000000000, 1)]) [1, 1]).database = [1, 1] ∧
      ¬ Agrees numberedFiles rejectsTwo (stateAfter [(0, 1), (25200000000000, 1)])
        (handleList rejectsTwo.environment numberedFiles deleting
          (stateAfter [(0, 1), (25200000000000, 1)]) [1, 1]) [1, 1] := by
  have hdb : (handleList rejectsTwo.environment numberedFiles deleting
      (stateAfter [(0, 1), (25200000000000, 1)]) [1, 1]).database = [1, 1] := by decide
  refine ⟨by decide, hdb, fun h => ?_⟩
  obtain ⟨new, heq, hp⟩ := h.database
  rw [hdb] at heq
  have hlen := hp.length_eq
  rw [show new = [1, 1] from heq.symm] at hlen
  revert hlen
  decide

end HiPerConTracer.Importer
