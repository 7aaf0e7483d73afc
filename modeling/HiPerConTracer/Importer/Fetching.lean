import HiPerConTracer.Importer.Queues

/-!
# The list of a fetch (`fetchFiles` in `reader-base.h`)

What `fetchFiles` returns, for every distribution of the files over the priorities.  The limit is
tested in the inner loop only, so that a file of low priority follows when the files of high
priority reach the limit:

    fetchFiles = high.take limit ++ low.take (max 1 (limit - high))         (fetchFiles_eq)

It is the list of the best files exactly if that does not happen, and no file of the list waits with
both priorities                                                             (best_iff).
-/

namespace HiPerConTracer.Importer

variable {File Entry : Type} (ops : FileEntry File Entry)

/-! ## The loops -/

theorem fetchSet_take {limit : Nat} {dataFileList : List File} (es : List Entry)
    (h : dataFileList.length < limit) :
    fetchSet ops limit dataFileList es =
      dataFileList ++ (es.take (limit - dataFileList.length)).map ops.dataFile := by
  induction es generalizing dataFileList with
  | nil => simp [fetchSet]
  | cons e es ih =>
    obtain ⟨n, hn⟩ : ∃ n, limit - dataFileList.length = n + 1 := ⟨limit - dataFileList.length - 1,
      by omega⟩
    have hlength : (dataFileList ++ [ops.dataFile e]).length = dataFileList.length + 1 :=
      List.length_append
    unfold fetchSet
    rw [hn, List.take_succ_cons, List.map_cons, hlength]
    by_cases hlast : dataFileList.length + 1 ≥ limit
    · obtain rfl : n = 0 := by omega
      rw [if_pos hlast]
      rfl
    · have hnext : limit - (dataFileList.length + 1) = n := by omega
      rw [if_neg hlast, ih (by omega), hlength, hnext, List.append_assoc]
      rfl

/-- When there is no place, one file is taken nevertheless. -/
theorem fetchSet_full {limit : Nat} {dataFileList : List File} (es : List Entry)
    (h : limit ≤ dataFileList.length) :
    fetchSet ops limit dataFileList es = dataFileList ++ (es.take 1).map ops.dataFile := by
  cases es with
  | nil => exact (List.append_nil dataFileList).symm
  | cons e es =>
    have hlength : (dataFileList ++ [ops.dataFile e]).length = dataFileList.length + 1 :=
      List.length_append
    unfold fetchSet
    rw [if_pos (by omega)]
    rfl

theorem fetchFiles_eq (r : Reader Entry) (worker : Nat) {limit : Nat} (hlimit : 1 ≤ limit) :
    fetchFiles ops r worker limit =
      ((r.dataFileSet .high worker).take limit ++ (r.dataFileSet .low worker).take
        (max 1 (limit - (r.dataFileSet .high worker).length))).map ops.dataFile := by
  have hhigh : fetchSet ops limit [] (r.dataFileSet .high worker) =
      [] ++ ((r.dataFileSet .high worker).take (limit - 0)).map ops.dataFile :=
    fetchSet_take ops _ hlimit
  rw [List.nil_append, Nat.sub_zero] at hhigh
  have hlength : (((r.dataFileSet .high worker).take limit).map ops.dataFile).length =
      min limit (r.dataFileSet .high worker).length := by
    rw [List.length_map, List.length_take]
  unfold fetchFiles
  rw [hhigh, List.map_append]
  by_cases hfull : limit ≤ (r.dataFileSet .high worker).length
  · have hone : max 1 (limit - (r.dataFileSet .high worker).length) = 1 := by omega
    rw [fetchSet_full ops _ (by omega), hone]
  · have hrest : max 1 (limit - (r.dataFileSet .high worker).length) =
        limit - min limit (r.dataFileSet .high worker).length := by omega
    rw [fetchSet_take ops _ (by omega), hlength, hrest]

/-! ## The best files -/

/-- In a list of files with their priorities, high before low, and then in the order of the set. -/
def Before (less : Entry → Entry → Prop) (a b : ReaderPriority × Entry) : Prop :=
  a.1 = .high ∧ b.1 = .low ∨ a.1 = b.1 ∧ less a.2 b.2

/-- The first files of the worker, at most `limit`, and none twice. -/
structure Best (less : Entry → Entry → Prop) (r : Reader Entry) (worker limit : Nat)
    (dataFileList : List File) : Prop where
  first : ∃ queue : List (ReaderPriority × Entry),
    (∀ p e, (p, e) ∈ queue ↔ e ∈ r.dataFileSet p worker) ∧
      queue.Pairwise (Before less) ∧
      dataFileList = (queue.take limit).map fun a => ops.dataFile a.2
  nodup : dataFileList.Nodup
  length : dataFileList.length ≤ limit
  /-- A limit of 1 does not lead to fast mode. -/
  slow : limit = 1 → ¬ dataFileList.length > 1

/-- The files of the worker, as the sets have them. -/
def Reader.queue (r : Reader Entry) (worker : Nat) : List (ReaderPriority × Entry) :=
  (r.dataFileSet .high worker).map (ReaderPriority.high, ·) ++
    (r.dataFileSet .low worker).map (ReaderPriority.low, ·)

theorem mem_queue {r : Reader Entry} {worker : Nat} (p : ReaderPriority) (e : Entry) :
    (p, e) ∈ r.queue worker ↔ e ∈ r.dataFileSet p worker := by
  unfold Reader.queue
  rw [List.mem_append, List.mem_map, List.mem_map]
  constructor
  · rintro (⟨e', he, h⟩ | ⟨e', he, h⟩) <;>
    · cases h
      exact he
  · intro he
    cases p with
    | high => exact Or.inl ⟨e, he, rfl⟩
    | low => exact Or.inr ⟨e, he, rfl⟩

theorem queue_take (r : Reader Entry) (worker limit : Nat) :
    ((r.queue worker).take limit).map (fun a => ops.dataFile a.2) =
      ((r.dataFileSet .high worker).take limit ++ (r.dataFileSet .low worker).take
        (limit - (r.dataFileSet .high worker).length)).map ops.dataFile := by
  unfold Reader.queue
  rw [List.take_append, List.length_map, List.map_append, List.map_append, List.map_take,
    List.map_take, List.map_take, List.map_take, List.map_map, List.map_map]
  rfl

variable [LinearOrder Entry]

theorem orderedInsert_pairwise {e : Entry} {l : List Entry} (hl : l.Pairwise (· < ·))
    (he : e ∉ l) : (l.orderedInsert (· ≤ ·) e).Pairwise (· < ·) := by
  have hle : (l.orderedInsert (· ≤ ·) e).Pairwise (· ≤ ·) :=
    List.Pairwise.orderedInsert e l (hl.imp le_of_lt)
  have hnodup : (l.orderedInsert (· ≤ ·) e).Nodup :=
    (List.perm_orderedInsert (· ≤ ·) e l).nodup_iff.mpr
      (List.nodup_cons.mpr ⟨he, hl.imp ne_of_lt⟩)
  exact hle.imp₂ (fun _ _ hab hne => lt_of_le_of_ne hab hne) hnodup

theorem addFile_pairwise {r : Reader Entry} (hr : ∀ p w, (r.dataFileSet p w).Pairwise (· < ·))
    (now : Int) (file : File) (p : ReaderPriority) (w : Nat) :
    ((addFile ops r now file).1.dataFileSet p w).Pairwise (· < ·) := by
  unfold addFile
  cases ops.makeInputFileEntry file r.workers with
  | none => exact hr p w
  | some we =>
    obtain ⟨w', e⟩ := we
    simp only
    split
    · exact hr p w
    · next hnew =>
      by_cases h : p = getPriorityOfFileEntry ops now e ∧ w = w'
      · obtain ⟨rfl, rfl⟩ := h
        rw [setFiles_same]
        exact orderedInsert_pairwise (hr _ _) hnew
      · rw [setFiles_other r _ h]
        exact hr p w

theorem removeFile_pairwise {r : Reader Entry} (hr : ∀ p w, (r.dataFileSet p w).Pairwise (· < ·))
    (file : File) (p : ReaderPriority) (w : Nat) :
    ((removeFile ops r file).1.dataFileSet p w).Pairwise (· < ·) := by
  rcases removeFile_cases ops r file with h | ⟨p', w', e, -, -, -, h⟩
  · rw [h]
    exact hr p w
  · rw [h]
    show ((r.setFiles p' w' ((r.dataFileSet p' w').erase e)).dataFileSet p w).Pairwise (· < ·)
    by_cases hsame : p = p' ∧ w = w'
    · obtain ⟨rfl, rfl⟩ := hsame
      rw [setFiles_same]
      exact (hr _ _).sublist List.erase_sublist
    · rw [setFiles_other r _ hsame]
      exact hr p w

/-- The sets are in order. -/
theorem Reader.Reachable.pairwise {r : Reader Entry} (h : r.Reachable ops) (p : ReaderPriority)
    (w : Nat) : (r.dataFileSet p w).Pairwise (· < ·) := by
  induction h generalizing p w with
  | empty workers => exact List.Pairwise.nil
  | addFile now file _ ih => exact addFile_pairwise ops ih now file p w
  | removeFile file _ ih => exact removeFile_pairwise ops ih file p w

theorem queue_pairwise {r : Reader Entry} (h : r.Reachable ops) (worker : Nat) :
    (r.queue worker).Pairwise (Before (· < ·)) := by
  unfold Reader.queue
  refine List.pairwise_append.mpr ⟨?_, ?_, ?_⟩
  · rw [List.pairwise_map]
    exact (h.pairwise ops .high worker).imp fun hlt => Or.inr ⟨rfl, hlt⟩
  · rw [List.pairwise_map]
    exact (h.pairwise ops .low worker).imp fun hlt => Or.inr ⟨rfl, hlt⟩
  · intro a ha b hb
    obtain ⟨_, _, rfl⟩ := List.mem_map.mp ha
    obtain ⟨_, _, rfl⟩ := List.mem_map.mp hb
    exact Or.inl ⟨rfl, rfl⟩

/-- The entries of a worker have different files. -/
theorem nodup_dataFile_iff {r : Reader Entry} (h : r.Reachable ops) {worker : Nat}
    {es : List Entry} (hes : ∀ e ∈ es, ∃ p, e ∈ r.dataFileSet p worker) :
    (es.map ops.dataFile).Nodup ↔ es.Nodup := by
  constructor
  · exact List.Nodup.of_map ops.dataFile
  · intro hnodup
    refine hnodup.map_on ?_
    intro e he e' he' heq
    obtain ⟨p, hp⟩ := hes e he
    obtain ⟨p', hp'⟩ := hes e' he'
    have hentry := h.invariants.1 p worker e hp
    rw [heq, h.invariants.1 p' worker e' hp'] at hentry
    exact (Prod.mk.inj (Option.some.inj hentry)).2.symm

theorem fetched_nodup_iff {r : Reader Entry} (h : r.Reachable ops) {worker limit n : Nat}
    (hfits : r.dataFileSet .low worker = [] ∨ (r.dataFileSet .high worker).length < limit) :
    (((r.dataFileSet .high worker).take limit ++ (r.dataFileSet .low worker).take n).map
        ops.dataFile).Nodup ↔
      ∀ e ∈ (r.dataFileSet .low worker).take n, e ∉ r.dataFileSet .high worker := by
  have hhigh : ∀ p, (r.dataFileSet p worker).Nodup := fun p => h.invariants.2 p worker
  have hin : ∀ e ∈ (r.dataFileSet .high worker).take limit ++
      (r.dataFileSet .low worker).take n, ∃ p, e ∈ r.dataFileSet p worker := by
    intro e he
    rcases List.mem_append.mp he with he | he
    · exact ⟨.high, List.mem_of_mem_take he⟩
    · exact ⟨.low, List.mem_of_mem_take he⟩
  rw [nodup_dataFile_iff ops h hin, List.nodup_append]
  constructor
  · rintro ⟨-, -, hdisjoint⟩ e he hboth
    rcases hfits with hnone | hfits
    · rw [hnone, List.take_nil] at he
      cases he
    · rw [List.take_of_length_le (Nat.le_of_lt hfits)] at hdisjoint
      exact hdisjoint e hboth e he rfl
  · intro hdisjoint
    refine ⟨(hhigh .high).sublist (List.take_sublist _ _),
      (hhigh .low).sublist (List.take_sublist _ _), ?_⟩
    rintro e he _ he' rfl
    exact hdisjoint e he' (List.mem_of_mem_take he)

/-- **The best files within the limit**: exactly if the files of high priority do not reach the
limit, or there are no others, and no file is taken with both priorities. -/
theorem best_iff {r : Reader Entry} (hr : r.Reachable ops) (worker : Nat) {limit : Nat}
    (hlimit : 1 ≤ limit) :
    Best ops (· < ·) r worker limit (fetchFiles ops r worker limit) ↔
      (r.dataFileSet .low worker = [] ∨ (r.dataFileSet .high worker).length < limit) ∧
        ∀ e ∈ (r.dataFileSet .low worker).take (limit - (r.dataFileSet .high worker).length),
          e ∉ r.dataFileSet .high worker := by
  rw [fetchFiles_eq ops r worker hlimit]
  by_cases hfits : r.dataFileSet .low worker = [] ∨ (r.dataFileSet .high worker).length < limit
  · -- the limit is kept
    have htake : (r.dataFileSet .low worker).take
          (max 1 (limit - (r.dataFileSet .high worker).length)) =
        (r.dataFileSet .low worker).take (limit - (r.dataFileSet .high worker).length) := by
      rcases hfits with hnone | hfits
      · rw [hnone, List.take_nil, List.take_nil]
      · rw [Nat.max_eq_right (by omega)]
    rw [htake]
    constructor
    · intro hbest
      exact ⟨hfits, (fetched_nodup_iff ops hr hfits).mp hbest.nodup⟩
    · rintro ⟨-, hdisjoint⟩
      have hlength : (((r.dataFileSet .high worker).take limit ++ (r.dataFileSet .low worker).take
          (limit - (r.dataFileSet .high worker).length)).map ops.dataFile).length ≤ limit := by
        rw [List.length_map, List.length_append, List.length_take, List.length_take]
        omega
      refine ⟨⟨r.queue worker, mem_queue, queue_pairwise ops hr worker, ?_⟩,
        (fetched_nodup_iff ops hr hfits).mpr hdisjoint, hlength, fun hone => ?_⟩
      · exact (queue_take ops r worker limit).symm
      · omega
  · -- one file too many
    constructor
    · intro hbest
      exfalso
      have hlength := hbest.length
      have hlow : 0 < (r.dataFileSet .low worker).length :=
        List.length_pos_of_ne_nil fun hnone => hfits (Or.inl hnone)
      have hhigh : limit ≤ (r.dataFileSet .high worker).length :=
        Nat.le_of_not_lt fun hlt => hfits (Or.inr hlt)
      rw [List.length_map, List.length_append, List.length_take, List.length_take] at hlength
      omega
    · intro h
      exact absurd h.1 hfits

/-! ## Traceroute and Ping files -/

/-- For the entries of the readers, in the order of `operator<`. -/
theorem fetchFiles_best_iff (nameParts : String → Option NameParts)
    (crc32 : String → UInt32 → UInt32) {r : Reader TracerouteFileEntry}
    (hr : r.Reachable (tracerouteFileEntry nameParts crc32)) (worker : Nat) {limit : Nat}
    (hlimit : 1 ≤ limit) :
    Best (tracerouteFileEntry nameParts crc32) (fun a b => a.less b = true) r worker limit
        (fetchFiles (tracerouteFileEntry nameParts crc32) r worker limit) ↔
      (r.dataFileSet .low worker = [] ∨ (r.dataFileSet .high worker).length < limit) ∧
        ∀ e ∈ (r.dataFileSet .low worker).take (limit - (r.dataFileSet .high worker).length),
          e ∉ r.dataFileSet .high worker := by
  have hless : (fun a b : TracerouteFileEntry => a.less b = true) = (· < ·) := by
    ext a b
    exact TracerouteFileEntry.less_iff a b
  rw [hless]
  exact best_iff _ hr worker hlimit

/-- One Traceroute of one source. -/
def newYearParts (filename : String) : Option NameParts :=
  if filename = "Traceroute-P1-10.0.0.1-20240101T000000.000000-000000001.results" then
    some ⟨1, "10.0.0.1", 1704067200000000000, 1⟩
  else none

/-- Its file in a sub-directory. -/
def newYearFile (directory : String) : FilesystemPath :=
  ⟨true, ["import", directory, "Traceroute-P1-10.0.0.1-20240101T000000.000000-000000001.results"]⟩

/-- The file in three sub-directories, in the last one found seven hours later. -/
def newYearFiles : Reader TracerouteFileEntry :=
  let ops := tracerouteFileEntry newYearParts fun _ _ => 0
  let r := (addFile ops (Reader.empty 1) 1704067200000000000 (newYearFile "a-b")).1
  let r := (addFile ops r 1704067200000000000 (newYearFile "a")).1
  (addFile ops r 1704092400000000000 (newYearFile "A")).1

theorem newYearFiles_reachable :
    newYearFiles.Reachable (tracerouteFileEntry newYearParts fun _ _ => 0) :=
  .addFile _ _ (.addFile _ _ (.addFile _ _ (.empty 1)))

theorem fetchFiles_best_three :
    Best (tracerouteFileEntry newYearParts fun _ _ => 0) (fun a b => a.less b = true) newYearFiles
      0 3 (fetchFiles (tracerouteFileEntry newYearParts fun _ _ => 0) newYearFiles 0 3) :=
  (fetchFiles_best_iff newYearParts (fun _ _ => 0) newYearFiles_reachable 0 (by decide)).mpr
    ⟨Or.inr (by decide +kernel), by decide +kernel⟩

/-- With a limit of 1, two files are fetched. -/
theorem fetchFiles_exceeds :
    fetchFiles (tracerouteFileEntry newYearParts fun _ _ => 0) newYearFiles 0 1 =
        [newYearFile "a", newYearFile "A"] ∧
      ¬ Best (tracerouteFileEntry newYearParts fun _ _ => 0) (fun a b => a.less b = true)
        newYearFiles 0 1
        (fetchFiles (tracerouteFileEntry newYearParts fun _ _ => 0) newYearFiles 0 1) := by
  have hfetched : fetchFiles (tracerouteFileEntry newYearParts fun _ _ => 0) newYearFiles 0 1 =
      [newYearFile "a", newYearFile "A"] := by decide +kernel
  refine ⟨hfetched, fun hbest => ?_⟩
  have hlength := hbest.length
  rw [hfetched] at hlength
  exact absurd hlength (by decide)

end HiPerConTracer.Importer
