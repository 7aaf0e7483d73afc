import HiPerConTracer.Importer.SubDirectories
import HiPerConTracer.Importer.Worker
import HiPerConTracer.Tools.TimePoint
import Mathlib.Data.Finset.Card

/-!
# Moving imported files (`worker.cc`, `reader-base.h`, `tools.h`)

`moveImportedFile` keeps the name of a file, some of its directories, and directories for the time in its
name; `rename` replaces a file that is already there.  For any calls of `finishedFile`, with one call for
each of the files:

    card (archived (run files calls)) = length (moved calls) ↔
      no two moved files have one name below the same directories          (finishedFile_keepsAll_iff)

The time has no part in it, since files of one name have one time.
-/

namespace HiPerConTracer.Importer.Moving
open Results (Text)

/-! ## Algorithm -/

/-- What the importer is configured with; the paths are canonical, in their parts. -/
structure Configuration where
  importMode : ImportModeType
  importFilePath : List Text
  goodFilePath : List Text
  badFilePath : List Text
  moveDirectoryDepth : Nat
  moveTimestampDepth : Nat

/-- A call of `finishedFile`. -/
structure Call where
  dataFile : List Text
  success : Bool
  /-- The file system does not throw an exception. -/
  works : Bool

/-- `std::filesystem::path::filename`. -/
def filename (path : List Text) : Text := path.getLastD []

/-- `std::filesystem::relative`, for canonical paths. -/
def relative : List Text → List Text → List Text
  | [], [] => [['.']]
  | path, [] => path
  | [], base => base.map fun _ => ['.', '.']
  | part :: path, part' :: base =>
    if part = part' then relative path base
    else (part' :: base).map (fun _ => ['.', '.']) ++ part :: path

/-- The loop of `makeDirectoryHierarchy` over the parts of `relPath`. -/
def directoryParts (directoryLevels d : Nat) : List Text → List Text
  | [] => []
  | part :: rest =>
    if d ≥ directoryLevels then []
    -- First directory is ".": there is no hierarchy -> stop here.
    else if d + 1 = 1 ∧ part = ['.'] then []
    else part :: directoryParts directoryLevels (d + 1) rest

section
variable (makeInputFileEntry : Text → Option Int) (config : Configuration)

/-- The directories for the time of a file, in nanoseconds. -/
def timestampParts (timeStamp : Int) (timestampLevels : Nat) : List Text :=
  if timestampLevels > 0 then
    (Tools.timePointToString timeStamp 0 (Tools.hierarchyFormat timestampLevels)).splitOn '/'
  else []

def makeDirectoryHierarchy (basePath dataFile : List Text) (timeStamp : Int)
    (directoryLevels timestampLevels : Nat) : List Text :=
  directoryParts directoryLevels 0 (relative dataFile.dropLast basePath) ++
    timestampParts timeStamp timestampLevels

def getDirectoryHierarchy (dataFile : List Text) : List Text :=
  if config.moveDirectoryDepth > 0 ∨ config.moveTimestampDepth > 0 then
    match makeInputFileEntry (filename dataFile) with
    | some timeStamp =>
      makeDirectoryHierarchy config.importFilePath dataFile timeStamp
        config.moveDirectoryDepth config.moveTimestampDepth
    | none => []
  else []

def Configuration.directory (isGood : Bool) : List Text :=
  if isGood then config.goodFilePath else config.badFilePath

/-- `targetPath / dataFile.filename()`. -/
def target (dataFile : List Text) (isGood : Bool) : List Text :=
  config.directory isGood ++ getDirectoryHierarchy makeInputFileEntry config dataFile ++
    [filename dataFile]

/-- `std::filesystem::rename` for the files of the file system: an existing target is replaced. -/
def rename (files : Finset (List Text)) (path newPath : List Text) : Option (Finset (List Text)) :=
  if path ∈ files then some (insert newPath (files.erase path)) else none

def moveImportedFile (files : Finset (List Text)) (dataFile : List Text) (isGood works : Bool) :
    Finset (List Text) :=
  if isBelow some dataFile config.importFilePath then
    if works then
      match rename files dataFile
          (target makeInputFileEntry config dataFile isGood) with
      | some files => files
      | none => files
    else files
  else files

def deleteImportedFile (files : Finset (List Text)) (dataFile : List Text) (works : Bool) :
    Finset (List Text) :=
  if works then files.erase dataFile else files

/-- `finishedFile`, for the files of the file system. -/
def finishedFile (files : Finset (List Text)) (c : Call) : Finset (List Text) :=
  if c.success then
    match config.importMode with
    | .deleteImportedFiles => deleteImportedFile files c.dataFile c.works
    | .moveImportedFiles =>
      moveImportedFile makeInputFileEntry config files c.dataFile true c.works
    | .keepImportedFiles => files
  else moveImportedFile makeInputFileEntry config files c.dataFile false c.works

def run (files : Finset (List Text)) (calls : List Call) : Finset (List Text) :=
  calls.foldl (finishedFile makeInputFileEntry config) files

/-! ## Specification -/

/-- A call that moves its file. -/
def isMove (c : Call) : Bool :=
  isBelow some c.dataFile config.importFilePath && c.works &&
    (!c.success || config.importMode == .moveImportedFiles)

def moved (calls : List Call) : List Call := calls.filter (isMove config)

/-- In the good or the bad tree. -/
def Archived (path : List Text) : Prop :=
  config.goodFilePath <+: path ∨ config.badFilePath <+: path

instance (path : List Text) : Decidable (Archived config path) :=
  inferInstanceAs (Decidable (_ ∨ _))

def archived (files : Finset (List Text)) : Finset (List Text) := files.filter (Archived config)

/-- Files that wait in the reader; none of them is in the good or the bad tree. -/
structure InputFiles where
  files : Finset (List Text)
  canonical : ∀ dataFile ∈ files, ['.'] ∉ dataFile
  accepted : ∀ dataFile ∈ files, (makeInputFileEntry (filename dataFile)).isSome
  waiting : ∀ dataFile ∈ files, ¬Archived config dataFile

/-- The directories below the import directory in which a file is. -/
def directories (dataFile : List Text) : List Text :=
  dataFile.dropLast.drop config.importFilePath.length

/-- The name and the directories that a call keeps are those of another one. -/
def SamePlace (c c' : Call) : Prop :=
  filename c.dataFile = filename c'.dataFile ∧
    config.directory c.success ++ (directories config c.dataFile).take config.moveDirectoryDepth =
      config.directory c'.success ++ (directories config c'.dataFile).take config.moveDirectoryDepth

/-! ## Directories -/

theorem relative_below (base path : List Text) :
    relative (base ++ path) base = if path = [] then [['.']] else path := by
  induction base with
  | nil => cases path <;> rfl
  | cons part base ih =>
    rw [List.cons_append, relative, if_pos rfl]
    exact ih

theorem directoryParts_eq {directoryLevels d : Nat} {path : List Text} (h : ['.'] ∉ path) :
    directoryParts directoryLevels d path = path.take (directoryLevels - d) := by
  induction path generalizing d with
  | nil => rw [List.take_nil, directoryParts]
  | cons part path ih =>
    obtain ⟨hpart, hpath⟩ := not_or.mp (mt List.mem_cons.mpr h)
    rw [directoryParts]
    by_cases hd : d ≥ directoryLevels
    · rw [if_pos hd, Nat.sub_eq_zero_of_le hd, List.take_zero]
    · have hlevels : directoryLevels - d = directoryLevels - (d + 1) + 1 := by omega
      rw [if_neg hd, if_neg (fun hdot => hpart hdot.2.symm), ih hpath, hlevels, List.take_succ_cons]

theorem isBelow_parts {dataFile importFilePath : List Text}
    (h : isBelow some dataFile importFilePath = true) :
    importFilePath <+: dataFile ∧ dataFile ≠ importFilePath := by
  have hpos : 0 < compareParts dataFile importFilePath := of_decide_eq_true h
  constructor
  · by_contra hbeside
    rw [compareParts_beside hbeside] at hpos
    exact absurd hpos (by decide)
  · rintro rfl
    rw [compareParts_below (List.prefix_refl _), Nat.sub_self] at hpos
    exact absurd hpos (by decide)

/-- A file below the import directory is there in its directories. -/
theorem dropLast_eq {dataFile : List Text} (h : isBelow some dataFile config.importFilePath = true) :
    dataFile.dropLast = config.importFilePath ++ directories config dataFile := by
  obtain ⟨⟨rest, hrest⟩, hne⟩ := isBelow_parts h
  have hnil : rest ≠ [] := by
    rintro rfl
    exact hne (by rw [← hrest, List.append_nil])
  unfold directories
  rw [← hrest, List.dropLast_append_of_ne_nil hnil, List.drop_left]

theorem directories_canonical {dataFile : List Text} (h : ['.'] ∉ dataFile) :
    ['.'] ∉ directories config dataFile := fun hdot =>
  h (List.mem_of_mem_dropLast (List.mem_of_mem_drop hdot))

variable {makeInputFileEntry config}

/-- The hierarchy are the directories up to their depth, and those for the time. -/
theorem getDirectoryHierarchy_eq {dataFile : List Text} {timeStamp : Int}
    (hbelow : isBelow some dataFile config.importFilePath = true) (hdot : ['.'] ∉ dataFile)
    (htime : makeInputFileEntry (filename dataFile) = some timeStamp) :
    getDirectoryHierarchy makeInputFileEntry config dataFile =
      (directories config dataFile).take config.moveDirectoryDepth ++
        timestampParts timeStamp config.moveTimestampDepth := by
  unfold getDirectoryHierarchy makeDirectoryHierarchy
  by_cases hdepth : config.moveDirectoryDepth > 0 ∨ config.moveTimestampDepth > 0
  · rw [if_pos hdepth, htime]
    dsimp only
    rw [dropLast_eq config hbelow, relative_below]
    congr 1
    by_cases hnil : directories config dataFile = []
    · rw [if_pos hnil, hnil, List.take_nil]
      -- The relative path is ".".
      by_cases hzero : config.moveDirectoryDepth = 0 <;> simp [directoryParts, hzero]
    · rw [if_neg hnil, directoryParts_eq (directories_canonical config hdot), Nat.sub_zero]
  · obtain ⟨hd, ht⟩ := not_or.mp hdepth
    rw [if_neg hdepth, Nat.eq_zero_of_not_pos hd, Nat.eq_zero_of_not_pos ht]
    rfl

/-- The target of a call. -/
def Call.target (makeInputFileEntry : Text → Option Int) (config : Configuration) (c : Call) : List Text :=
  Moving.target makeInputFileEntry config c.dataFile c.success

/-- Files of one name have one time, so that it cancels out. -/
theorem target_eq_iff {inputs : InputFiles makeInputFileEntry config} {c c' : Call}
    (hc : c.dataFile ∈ inputs.files) (hc' : c'.dataFile ∈ inputs.files)
    (hbelow : isBelow some c.dataFile config.importFilePath = true)
    (hbelow' : isBelow some c'.dataFile config.importFilePath = true) :
    c.target makeInputFileEntry config =
        c'.target makeInputFileEntry config ↔ SamePlace config c c' := by
  obtain ⟨time, htime⟩ := Option.isSome_iff_exists.mp (inputs.accepted _ hc)
  obtain ⟨time', htime'⟩ := Option.isSome_iff_exists.mp (inputs.accepted _ hc')
  unfold Call.target Moving.target SamePlace
  rw [getDirectoryHierarchy_eq hbelow (inputs.canonical _ hc) htime,
    getDirectoryHierarchy_eq hbelow' (inputs.canonical _ hc') htime', ← List.append_assoc,
    ← List.append_assoc]
  constructor
  · intro htarget
    obtain ⟨hpath, hlast⟩ := List.append_inj' htarget rfl
    have hname : filename c.dataFile = filename c'.dataFile := List.singleton_injective hlast
    obtain rfl : time = time' := Option.some.inj (htime.symm.trans ((congrArg _ hname).trans htime'))
    exact ⟨hname, List.append_cancel_right hpath⟩
  · rintro ⟨hname, hplace⟩
    obtain rfl : time = time' := Option.some.inj (htime.symm.trans ((congrArg _ hname).trans htime'))
    rw [hname, hplace]

/-! ## One file -/

variable (makeInputFileEntry config) in
theorem target_archived (dataFile : List Text) (isGood : Bool) :
    Archived config (Moving.target makeInputFileEntry config dataFile isGood) := by
  unfold Moving.target Configuration.directory
  rw [List.append_assoc]
  cases isGood with
  | true => exact .inl (List.prefix_append ..)
  | false => exact .inr (List.prefix_append ..)

theorem archived_erase {files : Finset (List Text)} {dataFile : List Text}
    (h : ¬Archived config dataFile) : archived config (files.erase dataFile) = archived config files := by
  unfold archived
  rw [Finset.filter_erase, Finset.erase_eq_of_notMem]
  exact fun hmem => h (Finset.mem_filter.mp hmem).2

theorem archived_deleteImportedFile {files : Finset (List Text)} {dataFile : List Text}
    (h : ¬Archived config dataFile) (works : Bool) :
    archived config (deleteImportedFile files dataFile works) = archived config files := by
  unfold deleteImportedFile
  split
  · exact archived_erase h
  · rfl

variable (makeInputFileEntry) in
theorem archived_moveImportedFile {files : Finset (List Text)} {dataFile : List Text}
    (hmem : dataFile ∈ files) (h : ¬Archived config dataFile) (isGood works : Bool) :
    archived config
        (moveImportedFile makeInputFileEntry config files dataFile isGood works) =
      if isBelow some dataFile config.importFilePath && works then
        insert (Moving.target makeInputFileEntry config dataFile isGood)
          (archived config files)
      else archived config files := by
  unfold moveImportedFile rename
  rw [if_pos hmem]
  cases isBelow some dataFile config.importFilePath <;> cases works
  case true.true =>
    have htarget := target_archived makeInputFileEntry config dataFile isGood
    have herase : archived config (files.erase dataFile) = archived config files := archived_erase h
    show archived config (insert _ (files.erase dataFile)) = insert _ (archived config files)
    rw [← herase]
    exact (Finset.filter_insert ..).trans (if_pos htarget)
  all_goals rfl

theorem mem_moveImportedFile {files : Finset (List Text)} {dataFile path : List Text}
    (hmem : path ∈ files) (hne : path ≠ dataFile) (isGood works : Bool) :
    path ∈ moveImportedFile makeInputFileEntry config files dataFile isGood works := by
  unfold moveImportedFile rename
  by_cases hfile : dataFile ∈ files
  · rw [if_pos hfile]
    have hothers := Finset.mem_insert_of_mem (b := Moving.target makeInputFileEntry
      config dataFile isGood) (Finset.mem_erase.mpr ⟨hne, hmem⟩)
    split
    · split
      · exact hothers
      · exact hmem
    · exact hmem
  · rw [if_neg hfile]
    split
    · split <;> exact hmem
    · exact hmem

theorem archived_finishedFile {files : Finset (List Text)} {c : Call} (hmem : c.dataFile ∈ files)
    (h : ¬Archived config c.dataFile) :
    archived config (finishedFile makeInputFileEntry config files c) =
      if isMove config c then
        insert (c.target makeInputFileEntry config) (archived config files)
      else archived config files := by
  have hmove := archived_moveImportedFile makeInputFileEntry hmem h c.success c.works
  unfold finishedFile isMove Call.target
  cases hsuccess : c.success with
  | false =>
    rw [hsuccess] at hmove
    rw [Bool.not_false, Bool.true_or, Bool.and_true]
    exact hmove
  | true =>
    rw [hsuccess] at hmove
    cases config.importMode with
    | deleteImportedFiles =>
      rw [if_pos rfl, show (!true || ImportModeType.deleteImportedFiles == .moveImportedFiles) = false
        from rfl, Bool.and_false, if_neg Bool.false_ne_true]
      exact archived_deleteImportedFile h c.works
    | moveImportedFiles =>
      rw [show (!true || ImportModeType.moveImportedFiles == .moveImportedFiles) = true from rfl,
        Bool.and_true]
      exact hmove
    | keepImportedFiles =>
      rw [if_pos rfl, show (!true || ImportModeType.keepImportedFiles == .moveImportedFiles) = false
        from rfl, Bool.and_false, if_neg Bool.false_ne_true]

theorem mem_finishedFile {files : Finset (List Text)} {c : Call} {path : List Text}
    (hmem : path ∈ files) (hne : path ≠ c.dataFile) :
    path ∈ finishedFile makeInputFileEntry config files c := by
  unfold finishedFile
  split
  · split
    · unfold deleteImportedFile
      split
      · exact Finset.mem_erase.mpr ⟨hne, hmem⟩
      · exact hmem
    · exact mem_moveImportedFile hmem hne ..
    · exact hmem
  · exact mem_moveImportedFile hmem hne ..

/-! ## All files -/

theorem moved_cons (c : Call) (calls : List Call) :
    moved config (c :: calls) = if isMove config c then c :: moved config calls else moved config calls :=
  List.filter_cons

/-- Behind the calls, the trees have in addition the targets of the moved files. -/
theorem archived_run {files : Finset (List Text)} {calls : List Call}
    (hcalls : (calls.map Call.dataFile).Nodup)
    (hfiles : ∀ c ∈ calls, c.dataFile ∈ files ∧ ¬Archived config c.dataFile) :
    archived config (run makeInputFileEntry config files calls) =
      archived config files ∪
        ((moved config calls).map (Call.target makeInputFileEntry config)).toFinset := by
  induction calls generalizing files with
  | nil => exact (Finset.union_empty _).symm
  | cons c calls ih =>
    obtain ⟨hc, hothers⟩ := List.forall_mem_cons.mp hfiles
    obtain ⟨hnew, hcalls⟩ := List.nodup_cons.mp hcalls
    have hremaining : ∀ c' ∈ calls,
        c'.dataFile ∈ finishedFile makeInputFileEntry config files c ∧
          ¬Archived config c'.dataFile := by
      intro c' hc'
      refine ⟨mem_finishedFile (hothers c' hc').1 fun heq => hnew ?_, (hothers c' hc').2⟩
      exact List.mem_map.mpr ⟨c', hc', heq⟩
    show archived config (run _ config (finishedFile _ config files c) calls) = _
    rw [ih hcalls hremaining, archived_finishedFile hc.1 hc.2, moved_cons]
    split
    · rw [List.map_cons, List.toFinset_cons, Finset.insert_union, Finset.union_insert]
    · rfl

theorem toFinset_card_iff {α : Type*} [DecidableEq α] (l : List α) :
    l.toFinset.card = l.length ↔ l.Nodup :=
  Multiset.toFinset_card_eq_card_iff_nodup (m := (l : Multiset α))

/-- **Moved files are kept**: the good and the bad tree have as many files as were moved if and only if no two
moved files have one name and are, in their trees, below the same directories. -/
theorem finishedFile_keepsAll_iff (makeInputFileEntry : Text → Option Int) (config : Configuration)
    (inputs : InputFiles makeInputFileEntry config) (calls : List Call)
    (hcalls : (calls.map Call.dataFile).Nodup) (hinputs : ∀ c ∈ calls, c.dataFile ∈ inputs.files) :
    (archived config (run makeInputFileEntry config inputs.files calls)).card =
        (moved config calls).length ↔
      (moved config calls).Pairwise fun c c' => ¬SamePlace config c c' := by
  have hwaiting : ∀ c ∈ calls, c.dataFile ∈ inputs.files ∧ ¬Archived config c.dataFile :=
    fun c hc => ⟨hinputs c hc, inputs.waiting _ (hinputs c hc)⟩
  have hempty : archived config inputs.files = ∅ := Finset.filter_eq_empty_iff.mpr inputs.waiting
  rw [archived_run hcalls hwaiting, hempty, Finset.empty_union,
    ← List.length_map (Call.target makeInputFileEntry config), toFinset_card_iff,
    List.Nodup, List.pairwise_map]
  refine List.Pairwise.iff_of_mem fun {c c'} hc hc' => not_congr ?_
  obtain ⟨hc, hmove⟩ := List.mem_filter.mp hc
  obtain ⟨hc', hmove'⟩ := List.mem_filter.mp hc'
  have hbelow : ∀ {c : Call}, isMove config c = true →
      isBelow some c.dataFile config.importFilePath = true := by
    intro c h
    unfold isMove at h
    rw [Bool.and_assoc, Bool.and_eq_true] at h
    exact h.1
  exact target_eq_iff (hinputs c hc) (hinputs c' hc') (hbelow hmove) (hbelow hmove')

/-! ## Two measurements of one host -/

def sampleName : Text := "Ping-ICMP-#12345678-0.0.0.0-20240611T151022.876543-000000001.hpct.xz".toList

/-- With the time of the name, 2024-06-11 15:10:22.876543. -/
def sampleEntry (name : Text) : Option Int :=
  if name = sampleName then some 1718118622876543000 else none

/-- The import directory i, the good directory g and the bad directory b. -/
def sampleConfiguration (moveDirectoryDepth moveTimestampDepth : Nat) : Configuration :=
  ⟨.moveImportedFiles, [['i']], [['g']], [['b']], moveDirectoryDepth, moveTimestampDepth⟩

/-- Files of one name in the directories 1 and 2 of a directory n. -/
def sampleCalls : List Call :=
  [⟨[['i'], ['n'], ['1'], sampleName], true, true⟩, ⟨[['i'], ['n'], ['2'], sampleName], true, true⟩]

def sampleInputs (moveDirectoryDepth moveTimestampDepth : Nat) :
    InputFiles sampleEntry (sampleConfiguration moveDirectoryDepth moveTimestampDepth) where
  files := (sampleCalls.map Call.dataFile).toFinset
  canonical := by decide
  accepted := by decide
  waiting := by
    show ∀ dataFile ∈ (sampleCalls.map Call.dataFile).toFinset,
      ¬([['g']] <+: dataFile ∨ [['b']] <+: dataFile)
    decide

theorem finishedFile_keepsAll_twoLevels :
    (archived (sampleConfiguration 2 3)
      (run sampleEntry (sampleConfiguration 2 3) (sampleInputs 2 3).files sampleCalls)).card =
        (moved (sampleConfiguration 2 3) sampleCalls).length := by
  refine (finishedFile_keepsAll_iff sampleEntry _ (sampleInputs 2 3) sampleCalls (by decide)
    (by decide)).mpr ?_
  show List.Pairwise _ sampleCalls
  refine List.pairwise_pair.mpr ?_
  rintro ⟨-, h⟩
  exact absurd h (by decide)

/-- With one level of the directories, the second file replaces the first one, for any depth of the time. -/
theorem finishedFile_oneLevel :
    (archived (sampleConfiguration 1 5)
      (run sampleEntry (sampleConfiguration 1 5) (sampleInputs 1 5).files sampleCalls)).card = 1 ∧
      (moved (sampleConfiguration 1 5) sampleCalls).length = 2 := by
  decide +kernel

end

end HiPerConTracer.Importer.Moving
