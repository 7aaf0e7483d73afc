import Mathlib.Data.List.Sort
import Mathlib.Order.Defs.LinearOrder

/-!
# The reader's queues (`reader-base.h`)

`ReaderImplementation` is a template over the type of its queue entries; so is the model.  Each
worker has one ordered set of entries for each priority (`DataFileSet[p][w]`).  `addFile` puts a
file into the set of its current priority, `removeFile` erases it from the first set that has it,
and `fetchFiles` lists the worker's files, the high priority ones first.
-/

namespace HiPerConTracer.Importer

inductive ReaderPriority where
  | low
  | high
deriving DecidableEq, Repr

/-- What the template parameter `ReaderInputFileEntry` provides.  `makeInputFileEntry file workers`
is the worker of the file and its entry, `none` if the name cannot be mapped. -/
structure FileEntry (File Entry : Type) where
  dataFile : Entry → File
  timeStamp : Entry → Int
  makeInputFileEntry : File → Nat → Option (Nat × Entry)
  dataFile_eq : ∀ f n w e, makeInputFileEntry f n = some (w, e) → dataFile e = f

structure Reader (Entry : Type) where
  workers : Nat
  dataFileSet : ReaderPriority → Nat → List Entry
  processed : Nat → Nat

section
variable {File Entry : Type} [LinearOrder Entry] (ops : FileEntry File Entry)

/-- `getPriorityOfFileEntry`: high for files of less than six hours (time in nanoseconds). -/
def getPriorityOfFileEntry (now : Int) (e : Entry) : ReaderPriority :=
  if (now - ops.timeStamp e).tdiv 1000000000 < 6 * 3600 then .high else .low

def Reader.empty (workers : Nat) : Reader Entry := ⟨workers, fun _ _ => [], fun _ => 0⟩

/-- `DataFileSet[p][w]` replaced by `l`. -/
def Reader.setFiles (r : Reader Entry) (p : ReaderPriority) (w : Nat) (l : List Entry) :
    Reader Entry :=
  { r with dataFileSet := fun p' w' => if p' = p ∧ w' = w then l else r.dataFileSet p' w' }

/-- `addFile` at time `now`: the worker that gets the file, `none` for -1. -/
def addFile (r : Reader Entry) (now : Int) (file : File) : Reader Entry × Option Nat :=
  match ops.makeInputFileEntry file r.workers with
  | none => (r, none)
  | some (w, e) =>
    let p := getPriorityOfFileEntry ops now e
    if e ∈ r.dataFileSet p w then (r, none)
    else (r.setFiles p w ((r.dataFileSet p w).orderedInsert (· ≤ ·) e), some w)

/-- The entry erased from `DataFileSet[p][w]` and counted as processed. -/
def Reader.eraseFile (r : Reader Entry) (p : ReaderPriority) (w : Nat) (e : Entry) :
    Reader Entry :=
  { r.setFiles p w ((r.dataFileSet p w).erase e) with
    processed := fun w' => r.processed w' + if w' = w ∨ w' = r.workers then 1 else 0 }

def removeFile (r : Reader Entry) (file : File) : Reader Entry × Bool :=
  match ops.makeInputFileEntry file r.workers with
  | none => (r, false)
  | some (w, e) =>
    if e ∈ r.dataFileSet .high w then (r.eraseFile .high w e, true)
    else if e ∈ r.dataFileSet .low w then (r.eraseFile .low w e, true)
    else (r, false)

/-- The inner loop of `fetchFiles` over one set: the limit is looked at after each file. -/
def fetchSet (limit : Nat) : List File → List Entry → List File
  | dataFileList, [] => dataFileList
  | dataFileList, e :: es =>
    if (dataFileList ++ [ops.dataFile e]).length ≥ limit then dataFileList ++ [ops.dataFile e]
    else fetchSet limit (dataFileList ++ [ops.dataFile e]) es

/-- `fetchFiles`: the `break` at the limit leaves the inner loop only, so the low priority set is
still entered. -/
def fetchFiles (r : Reader Entry) (worker limit : Nat) : List File :=
  fetchSet ops limit (fetchSet ops limit [] (r.dataFileSet .high worker))
    (r.dataFileSet .low worker)

/-! ## Queued entries -/

/-- Every entry is the one of its own file, in the queue of the file's worker. -/
def Reader.Queued (r : Reader Entry) : Prop :=
  ∀ p w e, e ∈ r.dataFileSet p w → ops.makeInputFileEntry (ops.dataFile e) r.workers = some (w, e)

/-- The sets hold no entry twice. -/
def Reader.Sets (r : Reader Entry) : Prop := ∀ p w, (r.dataFileSet p w).Nodup

/-- `file` waits in the queue of priority `p`. -/
def Reader.Waiting (r : Reader Entry) (p : ReaderPriority) (file : File) : Prop :=
  ∃ w e, e ∈ r.dataFileSet p w ∧ ops.dataFile e = file

omit [LinearOrder Entry] in
theorem setFiles_same (r : Reader Entry) (p : ReaderPriority) (w : Nat) (l : List Entry) :
    (r.setFiles p w l).dataFileSet p w = l := by simp [Reader.setFiles]

omit [LinearOrder Entry] in
theorem setFiles_other (r : Reader Entry) {p p' : ReaderPriority} {w w' : Nat} (l : List Entry)
    (h : ¬ (p' = p ∧ w' = w)) : (r.setFiles p w l).dataFileSet p' w' = r.dataFileSet p' w' := by
  simp [Reader.setFiles, h]

omit [LinearOrder Entry] in
theorem mem_setFiles {r : Reader Entry} {p p' : ReaderPriority} {w w' : Nat} {l : List Entry}
    {e : Entry} : e ∈ (r.setFiles p w l).dataFileSet p' w' ↔
      (p' = p ∧ w' = w ∧ e ∈ l) ∨ (¬ (p' = p ∧ w' = w) ∧ e ∈ r.dataFileSet p' w') := by
  by_cases h : p' = p ∧ w' = w
  · obtain ⟨rfl, rfl⟩ := h
    simp [setFiles_same]
  · rw [setFiles_other r l h]
    constructor
    · exact fun he => Or.inr ⟨h, he⟩
    · rintro (⟨h1, h2, -⟩ | ⟨-, he⟩)
      · exact absurd ⟨h1, h2⟩ h
      · exact he

theorem addFile_queued {r : Reader Entry} (hr : r.Queued ops) (now : Int) (file : File) :
    (addFile ops r now file).1.Queued ops := by
  unfold addFile
  cases hm : ops.makeInputFileEntry file r.workers with
  | none => exact hr
  | some we =>
    obtain ⟨w, e⟩ := we
    simp only
    split
    · exact hr
    · intro p' w' e' he'
      have hw : (r.setFiles (getPriorityOfFileEntry ops now e) w
        ((r.dataFileSet (getPriorityOfFileEntry ops now e) w).orderedInsert (· ≤ ·) e)).workers
          = r.workers := rfl
      rw [hw]
      rcases mem_setFiles.mp he' with ⟨rfl, rfl, hin⟩ | ⟨-, hin⟩
      · rcases (List.mem_orderedInsert _).mp hin with rfl | hin
        · rw [ops.dataFile_eq _ _ _ _ hm, hm]
        · exact hr _ _ _ hin
      · exact hr _ _ _ hin

theorem addFile_sets {r : Reader Entry} (hr : r.Sets) (now : Int) (file : File) :
    (addFile ops r now file).1.Sets := by
  unfold addFile
  cases ops.makeInputFileEntry file r.workers with
  | none => exact hr
  | some we =>
    obtain ⟨w, e⟩ := we
    simp only
    split
    · exact hr
    · next hnew =>
      intro p' w'
      by_cases h : p' = getPriorityOfFileEntry ops now e ∧ w' = w
      · obtain ⟨rfl, rfl⟩ := h
        rw [setFiles_same]
        exact (List.perm_orderedInsert (· ≤ ·) e _).nodup_iff.mpr
          (List.nodup_cons.mpr ⟨hnew, hr _ _⟩)
      · rw [setFiles_other r _ h]
        exact hr p' w'

theorem eraseFile_mem {r : Reader Entry} (hs : r.Sets) {p p' : ReaderPriority} {w w' : Nat}
    {e e' : Entry} : e' ∈ (r.eraseFile p w e).dataFileSet p' w' ↔
      e' ∈ r.dataFileSet p' w' ∧ ¬ (p' = p ∧ w' = w ∧ e' = e) := by
  unfold Reader.eraseFile
  simp only
  rw [mem_setFiles, (hs p w).mem_erase_iff]
  constructor
  · rintro (⟨rfl, rfl, hne, he⟩ | ⟨hne, he⟩)
    · exact ⟨he, fun h => hne h.2.2⟩
    · exact ⟨he, fun h => hne ⟨h.1, h.2.1⟩⟩
  · rintro ⟨he, hne⟩
    by_cases h : p' = p ∧ w' = w
    · obtain ⟨rfl, rfl⟩ := h
      exact Or.inl ⟨rfl, rfl, fun h => hne ⟨rfl, rfl, h⟩, he⟩
    · exact Or.inr ⟨h, he⟩

theorem eraseFile_sets {r : Reader Entry} (hs : r.Sets) (p : ReaderPriority) (w : Nat) (e : Entry) :
    (r.eraseFile p w e).Sets := by
  intro p' w'
  unfold Reader.eraseFile
  simp only
  by_cases h : p' = p ∧ w' = w
  · obtain ⟨rfl, rfl⟩ := h
    rw [setFiles_same]
    exact (hs _ _).erase _
  · rw [setFiles_other r _ h]
    exact hs p' w'

/-- What `removeFile` does: it erases the entry of the file from at most one set. -/
theorem removeFile_cases (r : Reader Entry) (file : File) :
    removeFile ops r file = (r, false) ∨
    ∃ p w e, ops.makeInputFileEntry file r.workers = some (w, e) ∧ e ∈ r.dataFileSet p w ∧
      (p = .low → e ∉ r.dataFileSet .high w) ∧ removeFile ops r file = (r.eraseFile p w e, true) := by
  unfold removeFile
  cases hm : ops.makeInputFileEntry file r.workers with
  | none => exact Or.inl rfl
  | some we =>
    obtain ⟨w, e⟩ := we
    simp only
    by_cases hh : e ∈ r.dataFileSet .high w
    · exact Or.inr ⟨.high, w, e, rfl, hh, by simp, by rw [if_pos hh]⟩
    · by_cases hl : e ∈ r.dataFileSet .low w
      · exact Or.inr ⟨.low, w, e, rfl, hl, fun _ => hh, by rw [if_neg hh, if_pos hl]⟩
      · exact Or.inl (by rw [if_neg hh, if_neg hl])

theorem removeFile_queued {r : Reader Entry} (hr : r.Queued ops) (hs : r.Sets) (file : File) :
    (removeFile ops r file).1.Queued ops := by
  rcases removeFile_cases ops r file with h | ⟨p, w, e, -, -, -, h⟩
  · rw [h]; exact hr
  · rw [h]
    intro p' w' e' he'
    exact hr p' w' e' ((eraseFile_mem hs).mp he').1

theorem removeFile_sets {r : Reader Entry} (hs : r.Sets) (file : File) :
    (removeFile ops r file).1.Sets := by
  rcases removeFile_cases ops r file with h | ⟨p, w, e, -, -, -, h⟩
  · rw [h]; exact hs
  · rw [h]; exact eraseFile_sets hs p w e

/-! ## In how many queues a file waits -/

/-- The readers that announcements and removals lead to. -/
inductive Reader.Reachable : Reader Entry → Prop where
  | empty (workers : Nat) : Reader.Reachable (Reader.empty workers)
  | addFile {r : Reader Entry} (now : Int) (file : File) :
      Reader.Reachable r → Reader.Reachable (addFile ops r now file).1
  | removeFile {r : Reader Entry} (file : File) :
      Reader.Reachable r → Reader.Reachable (removeFile ops r file).1

theorem Reader.Reachable.invariants {r : Reader Entry} (h : r.Reachable ops) :
    r.Queued ops ∧ r.Sets := by
  induction h with
  | empty workers =>
    refine ⟨?_, fun p w => List.nodup_nil⟩
    intro p w e he
    cases he
  | addFile now file _ ih => exact ⟨addFile_queued ops ih.1 now file, addFile_sets ops ih.2 now file⟩
  | removeFile file _ ih =>
    exact ⟨removeFile_queued ops ih.1 ih.2 file, removeFile_sets ops ih.2 file⟩

/-- The number of queues, of priority high and low, in which the file waits. -/
def Reader.copies (r : Reader Entry) (file : File) : Nat :=
  match ops.makeInputFileEntry file r.workers with
  | none => 0
  | some (w, e) =>
    (if e ∈ r.dataFileSet .high w then 1 else 0) + (if e ∈ r.dataFileSet .low w then 1 else 0)

omit [LinearOrder Entry] in
theorem waiting_iff {r : Reader Entry} (hq : r.Queued ops) (p : ReaderPriority) (file : File) :
    r.Waiting ops p file ↔
      ∃ w e, ops.makeInputFileEntry file r.workers = some (w, e) ∧ e ∈ r.dataFileSet p w := by
  constructor
  · rintro ⟨w, e, he, rfl⟩
    exact ⟨w, e, hq p w e he, he⟩
  · rintro ⟨w, e, hm, he⟩
    exact ⟨w, e, he, ops.dataFile_eq _ _ _ _ hm⟩

theorem not_waiting_iff {r : Reader Entry} (hq : r.Queued ops) (file : File) :
    (∀ p, ¬ r.Waiting ops p file) ↔ r.copies ops file = 0 := by
  simp only [waiting_iff ops hq]
  unfold Reader.copies
  cases hm : ops.makeInputFileEntry file r.workers with
  | none => simp
  | some we =>
    obtain ⟨w, e⟩ := we
    constructor
    · intro h
      have hhigh : e ∉ r.dataFileSet .high w := fun he => h .high ⟨w, e, rfl, he⟩
      have hlow : e ∉ r.dataFileSet .low w := fun he => h .low ⟨w, e, rfl, he⟩
      simp [hhigh, hlow]
    · rintro h p ⟨w', e', heq, he⟩
      obtain ⟨rfl, rfl⟩ := Prod.mk.inj (Option.some.inj heq)
      cases p <;> simp [he] at h

theorem waiting_both_iff {r : Reader Entry} (hq : r.Queued ops) (file : File) :
    (r.Waiting ops .high file ∧ r.Waiting ops .low file) ↔ r.copies ops file = 2 := by
  simp only [waiting_iff ops hq]
  unfold Reader.copies
  cases hm : ops.makeInputFileEntry file r.workers with
  | none => simp
  | some we =>
    obtain ⟨w, e⟩ := we
    constructor
    · rintro ⟨⟨w₁, e₁, h₁, hh⟩, ⟨w₂, e₂, h₂, hl⟩⟩
      obtain ⟨rfl, rfl⟩ := Prod.mk.inj (Option.some.inj h₁)
      obtain ⟨rfl, rfl⟩ := Prod.mk.inj (Option.some.inj h₂)
      simp [hh, hl]
    · intro h
      have hh : e ∈ r.dataFileSet .high w := by
        by_contra hne
        simp only [hne, if_false] at h
        split at h <;> omega
      have hl : e ∈ r.dataFileSet .low w := by
        by_contra hne
        simp only [hne, if_false] at h
        split at h <;> omega
      exact ⟨⟨w, e, rfl, hh⟩, ⟨w, e, rfl, hl⟩⟩

theorem copies_le_two (r : Reader Entry) (file : File) : r.copies ops file ≤ 2 := by
  unfold Reader.copies
  cases ops.makeInputFileEntry file r.workers with
  | none => exact Nat.zero_le _
  | some we =>
    simp only
    split <;> split <;> omega

theorem removeFile_workers (r : Reader Entry) (file : File) :
    (removeFile ops r file).1.workers = r.workers := by
  rcases removeFile_cases ops r file with h | ⟨p, w, e, -, -, -, h⟩ <;> rw [h]
  rfl

/-- `removeFile` takes the file out of one of the queues in which it waits. -/
theorem copies_removeFile_same {r : Reader Entry} (hs : r.Sets) (file : File) :
    (removeFile ops r file).1.copies ops file = r.copies ops file - 1 := by
  unfold Reader.copies
  rw [removeFile_workers]
  cases hm : ops.makeInputFileEntry file r.workers with
  | none => rfl
  | some we =>
    obtain ⟨w, e⟩ := we
    simp only [removeFile, hm]
    by_cases hh : e ∈ r.dataFileSet .high w
    · simp [hh, eraseFile_mem hs]
    · by_cases hl : e ∈ r.dataFileSet .low w
      · simp [hh, hl, eraseFile_mem hs]
      · simp [hh, hl]

theorem copies_removeFile_other {r : Reader Entry} (hs : r.Sets) {file file' : File}
    (hne : file' ≠ file) : (removeFile ops r file).1.copies ops file' = r.copies ops file' := by
  unfold Reader.copies
  rw [removeFile_workers]
  cases hm' : ops.makeInputFileEntry file' r.workers with
  | none => rfl
  | some we' =>
    obtain ⟨w', e'⟩ := we'
    rcases removeFile_cases ops r file with h | ⟨p, w, e, hm, -, -, h⟩
    · rw [h]
    · have hee : e' ≠ e := by
        rintro rfl
        exact hne ((ops.dataFile_eq _ _ _ _ hm').symm.trans (ops.dataFile_eq _ _ _ _ hm))
      simp only [h, eraseFile_mem hs, hee, and_false, not_false_eq_true, and_true]

theorem removeFile_iff {r : Reader Entry} {file : File} :
    (removeFile ops r file).2 = true ↔ 0 < r.copies ops file := by
  unfold removeFile Reader.copies
  cases ops.makeInputFileEntry file r.workers with
  | none => simp
  | some we =>
    obtain ⟨w, e⟩ := we
    simp only
    by_cases hh : e ∈ r.dataFileSet .high w
    · simp only [hh, if_true, true_iff]
      omega
    · by_cases hl : e ∈ r.dataFileSet .low w <;> simp [hh, hl]

/-- A file that waits in no queue is not removed. -/
theorem removeFile_of_copies_eq_zero {r : Reader Entry} {file : File}
    (h : r.copies ops file = 0) : removeFile ops r file = (r, false) := by
  rcases removeFile_cases ops r file with heq | ⟨p, w, e, -, -, -, heq⟩
  · exact heq
  · have hpos := (removeFile_iff ops).mp (congrArg Prod.snd heq)
    omega

/-- A removal is counted for the worker of the file, and in the total. -/
theorem removeFile_processed {r : Reader Entry} {file : File} {w : Nat} {e : Entry}
    (hm : ops.makeInputFileEntry file r.workers = some (w, e))
    (h : (removeFile ops r file).2 = true) (w' : Nat) :
    (removeFile ops r file).1.processed w' =
      r.processed w' + if w' = w ∨ w' = r.workers then 1 else 0 := by
  rcases removeFile_cases ops r file with heq | ⟨p, w₁, e₁, hm₁, -, -, heq⟩
  · rw [heq] at h
    cases h
  · obtain ⟨rfl, rfl⟩ := Prod.mk.inj (Option.some.inj (hm₁.symm.trans hm))
    rw [heq]
    rfl

/-- The files of a list are removed one after the other. -/
def removeFiles (r : Reader Entry) (files : List File) : Reader Entry :=
  files.foldl (fun r f => (removeFile ops r f).1) r

theorem removeFiles_invariants {r : Reader Entry} (hq : r.Queued ops) (hs : r.Sets)
    (files : List File) : (removeFiles ops r files).Queued ops ∧ (removeFiles ops r files).Sets := by
  induction files generalizing r with
  | nil => exact ⟨hq, hs⟩
  | cons f fs ih => exact ih (removeFile_queued ops hq hs f) (removeFile_sets ops hs f)

theorem copies_removeFiles [DecidableEq File] {r : Reader Entry} (hs : r.Sets) (files : List File)
    (file : File) :
    (removeFiles ops r files).copies ops file = r.copies ops file - files.count file := by
  induction files generalizing r with
  | nil => simp [removeFiles]
  | cons f fs ih =>
    have hstep : removeFiles ops r (f :: fs) = removeFiles ops (removeFile ops r f).1 fs := rfl
    rw [hstep, ih (removeFile_sets ops hs f), List.count_cons]
    by_cases hf : f = file
    · subst hf
      rw [copies_removeFile_same ops hs, beq_self_eq_true, if_pos rfl]
      omega
    · rw [copies_removeFile_other ops hs (Ne.symm hf), beq_false_of_ne hf]
      simp

/-! ## The fetched list -/

omit [LinearOrder Entry] in
theorem fetchSet_eq (limit : Nat) (dataFileList : List File) (es : List Entry) :
    ∃ n, fetchSet ops limit dataFileList es = dataFileList ++ (es.take n).map ops.dataFile := by
  induction es generalizing dataFileList with
  | nil => exact ⟨0, by simp [fetchSet]⟩
  | cons e es ih =>
    unfold fetchSet
    split
    · exact ⟨1, by simp⟩
    · obtain ⟨n, hn⟩ := ih (dataFileList ++ [ops.dataFile e])
      exact ⟨n + 1, by simp [hn]⟩

omit [LinearOrder Entry] in
/-- Each of the two parts of a fetched list has a file at most once, and only if it waits there. -/
theorem count_queue_le [DecidableEq File] [DecidableEq Entry] {r : Reader Entry} (hq : r.Queued ops)
    (hs : r.Sets) (p : ReaderPriority) (w n : Nat) (file : File) :
    (((r.dataFileSet p w).take n).map ops.dataFile).count file ≤
      match ops.makeInputFileEntry file r.workers with
      | none => 0
      | some (w', e) => if e ∈ r.dataFileSet p w' then 1 else 0 := by
  have hinj : (((r.dataFileSet p w).take n).map ops.dataFile).Nodup := by
    refine List.Nodup.map_on ?_ ((hs p w).sublist (List.take_sublist _ _))
    intro e he e' he' heq
    have h := hq p w e (List.mem_of_mem_take he)
    rw [heq, hq p w e' (List.mem_of_mem_take he')] at h
    exact (Prod.mk.inj (Option.some.inj h)).2.symm
  by_cases hin : file ∈ ((r.dataFileSet p w).take n).map ops.dataFile
  · obtain ⟨e, he, rfl⟩ := List.mem_map.mp hin
    have he' := List.mem_of_mem_take he
    rw [hq p w e he']
    simp only [he', if_true]
    exact List.nodup_iff_count_le_one.mp hinj _
  · rw [List.count_eq_zero_of_not_mem hin]
    exact Nat.zero_le _

omit [LinearOrder Entry] in
theorem mem_fetchFiles {r : Reader Entry} (hq : r.Queued ops) {worker limit : Nat} {file : File}
    (h : file ∈ fetchFiles ops r worker limit) :
    ∃ e, ops.makeInputFileEntry file r.workers = some (worker, e) := by
  unfold fetchFiles at h
  obtain ⟨n, hn⟩ := fetchSet_eq ops limit [] (r.dataFileSet .high worker)
  rw [hn] at h
  obtain ⟨m, hm⟩ := fetchSet_eq ops limit
    ([] ++ ((r.dataFileSet .high worker).take n).map ops.dataFile) (r.dataFileSet .low worker)
  rw [hm, List.nil_append, List.mem_append] at h
  rcases h with h | h <;>
  · obtain ⟨e, he, rfl⟩ := List.mem_map.mp h
    exact ⟨e, hq _ _ _ (List.mem_of_mem_take he)⟩

theorem count_fetchFiles_le [DecidableEq File] {r : Reader Entry} (hq : r.Queued ops)
    (hs : r.Sets) (worker limit : Nat) (file : File) :
    (fetchFiles ops r worker limit).count file ≤ r.copies ops file := by
  unfold fetchFiles
  obtain ⟨n, hn⟩ := fetchSet_eq ops limit [] (r.dataFileSet .high worker)
  rw [hn]
  obtain ⟨m, hm⟩ := fetchSet_eq ops limit
    ([] ++ ((r.dataFileSet .high worker).take n).map ops.dataFile) (r.dataFileSet .low worker)
  rw [hm, List.nil_append, List.count_append]
  have hhigh := count_queue_le ops hq hs .high worker n file
  have hlow := count_queue_le ops hq hs .low worker m file
  unfold Reader.copies
  cases hmk : ops.makeInputFileEntry file r.workers with
  | none =>
    rw [hmk] at hhigh hlow
    exact Nat.add_le_add hhigh hlow
  | some we =>
    rw [hmk] at hhigh hlow
    exact Nat.add_le_add hhigh hlow

end

end HiPerConTracer.Importer
