import HiPerConTracer.Merge.Blocks

/-!
# The merged output and the scheduling of the tasks

For files of one type, the rows that have been written and those that the tasks still have are, in any
order of the steps, the rows of all files (`run_progress`).  So the set of the rows is the same for every
schedule, every order of the files, and every partition of the blocks into files:

    well-formed files, distinct keys, the same blocks →
      the same column names and rows, with increasing keys                       (merged_output)
-/

namespace HiPerConTracer.Merge
open Results (Text)

variable {p : Setup} {type : InputType} {sorted : Bool}

/-- The line with the names of the columns. -/
def namesLine (p : Setup) (type : InputType) : Text :=
  (applySeparator ((columnNames type).getD []) p.separator).1

/-! ## Steps of a task -/

namespace Task

/-- The version with which the next line is read. -/
def version (type : InputType) (t : Task) : Nat :=
  if t.vars.version = 0 then fileVersion type t.lines else t.vars.version

/-- The result of the lines that are left. -/
def rest (p : Setup) (type : InputType) (t : Task) : Option (List OutputEntry) :=
  rowsOf p type type.columns { t.vars with version := t.version type } t.lines

/-- The rows that the task still has. -/
def todo (p : Setup) (type : InputType) (t : Task) : List OutputEntry := (t.rest p type).getD []

/-- A task that reads a well-formed file. -/
structure Ok (p : Setup) (type : InputType) (t : Task) : Prop where
  format : t.reference.format.Is type
  columns : t.reference.columns = type.columns
  begun : t.vars.version ≠ 0 ∨
    ∃ line lines, t.lines = line :: lines ∧ Accepts type (fileVersion type t.lines) line
  accepted : (t.rest p type).isSome

theorem todo_nil {t : Task} (h : t.lines = []) : t.todo p type = [] := by
  unfold todo rest
  rw [h]
  rfl

/-- The check of the format gives the version. -/
theorem Ok.processLine_eq {t : Task} (h : t.Ok p type) {line : Text} {lines : List Text}
    (hlines : t.lines = line :: lines) (c : Common) :
    processLine p sorted false c t.reference t.vars line =
      readAndWrite p sorted c t.reference { t.vars with version := t.version type } line := by
  unfold processLine
  by_cases hversion : t.vars.version = 0
  · rcases h.begun with hbegun | ⟨line', lines', hlines', haccepts⟩
    · exact absurd hversion hbegun
    · obtain ⟨rfl, rfl⟩ := List.cons.inj (hlines.symm.trans hlines')
      have hlength := haccepts.length
      rw [if_pos ⟨by omega, haccepts.head, hversion⟩, haccepts.checks h.format]
      show readAndWrite p sorted c t.reference { t.vars with version := _ } line = _
      unfold version
      rw [if_pos hversion]
  · rw [if_neg fun hno => hversion hno.2.2]
    unfold version
    rw [if_neg hversion]

/-- **Step of a task.**  The row of the line, if it has one, is written. -/
theorem Ok.step {t : Task} (h : t.Ok p type) {line : Text} {lines : List Text}
    (hlines : t.lines = line :: lines) (sorted : Bool) (c : Common) :
    ∃ v row, Ok p type ⟨lines, t.reference, v⟩ ∧
      t.todo p type = row.toList ++ todo p type ⟨lines, t.reference, v⟩ ∧
      (row = none ∧ Task.step p sorted c t = (c, ⟨lines, t.reference, v⟩) ∨
        ∃ r, row = some r ∧
          Task.step p sorted c t = ((c.write sorted r).1,
            if (c.write sorted r).2 then ⟨lines, t.reference, v⟩
            else ⟨[], t.reference, t.vars⟩)) := by
  obtain ⟨rows, hrows⟩ := Option.isSome_iff_exists.mp h.accepted
  have hall := hrows
  unfold rest rowsOf at hrows
  rw [hlines] at hrows
  dsimp only at hrows
  cases hread : readLine p type type.columns { t.vars with version := t.version type } line with
  | error e =>
    rw [hread] at hrows
    cases hrows
  | ok result =>
    obtain ⟨v, row⟩ := result
    rw [hread] at hrows
    obtain ⟨others, hothers, rfl⟩ := Option.map_eq_some_iff.mp hrows
    have hv : v.version = t.version type := readLine_version hread
    have hne : v.version ≠ 0 := by
      rw [hv]
      unfold version
      rcases h.begun with hbegun | ⟨line', lines', hlines', haccepts⟩
      · rw [if_neg hbegun]
        exact hbegun
      · split
        · exact haccepts.version_ne_zero
        · next hbegun => exact hbegun
    have hrest : rest p type ⟨lines, t.reference, v⟩ = some others := by
      unfold rest version
      dsimp only
      rw [if_neg hne]
      exact hothers
    refine ⟨v, row, ⟨h.format, h.columns, Or.inl hne, by rw [hrest]; rfl⟩, ?_, ?_⟩
    · unfold todo
      rw [hall, hrest]
      rfl
    · unfold Task.step
      rw [hlines]
      dsimp only
      rw [h.processLine_eq hlines]
      unfold readAndWrite
      rw [h.format.type_eq, h.columns, hread]
      cases row with
      | none => exact Or.inl ⟨rfl, rfl⟩
      | some r =>
        refine Or.inr ⟨r, rfl, ?_⟩
        dsimp only
        rcases c.write sorted r with ⟨c', _ | _⟩
        · rfl
        · rfl

end Task

/-! ## Rows that have been written -/

/-- The column names and the rows have been written, in the order of their keys if sorted. -/
structure Written (p : Setup) (type : InputType) (sorted : Bool) (c : Common)
    (rows : List OutputEntry) : Prop where
  noErrors : c.errorCounter = 0
  ordered : sorted = true →
    c.outputStream = [namesLine p type] ∧ c.outputSet = rows ∧ SortedSet.Sorted OutputEntry.key rows
  unordered : sorted = false → c.outputStream = namesLine p type :: rows.map (·.line)

theorem Written.write {c : Common} {rows : List OutputEntry} (h : Written p type sorted c rows)
    (row : OutputEntry) :
    ((c.write sorted row).2 = true ∧ ∃ rows', rows'.Perm (row :: rows) ∧
        Written p type sorted (c.write sorted row).1 rows') ∨
      ((c.write sorted row).2 = false ∧ sorted = true ∧ row.key ∈ rows.map OutputEntry.key ∧
        0 < (c.write sorted row).1.errorCounter) := by
  cases sorted with
  | false =>
    refine Or.inl ⟨rfl, rows ++ [row], List.perm_append_singleton row rows, h.noErrors, nofun, ?_⟩
    intro _
    show c.outputStream ++ [row.line] = namesLine p type :: (rows ++ [row]).map (·.line)
    rw [h.unordered rfl, List.map_append]
    rfl
  | true =>
    obtain ⟨hstream, hset, hsorted⟩ := h.ordered rfl
    unfold Common.write
    dsimp only
    rw [if_pos rfl, hset]
    cases hinsert : SortedSet.insert OutputEntry.less row rows with
    | none =>
      have hmem := (SortedSet.insert_eq_none_iff OutputEntry.less_compares hsorted).mp hinsert
      exact Or.inr ⟨rfl, rfl, hmem, Nat.succ_pos _⟩
    | some rows' =>
      refine Or.inl ⟨rfl, rows', SortedSet.insert_perm hinsert, h.noErrors, ?_, nofun⟩
      intro _
      exact ⟨hstream, rfl, SortedSet.insert_sorted OutputEntry.less_compares hsorted hinsert⟩

theorem write_errorCounter (sorted : Bool) (c : Common) (row : OutputEntry) :
    c.errorCounter ≤ (c.write sorted row).1.errorCounter := by
  unfold Common.write Common.failed
  dsimp only
  split
  · split
    · exact Nat.le_succ _
    · exact Nat.le_refl _
  · exact Nat.le_refl _

theorem readAndWrite_errorCounter (c : Common) (r : Reference) (v : Variables) (line : Text) :
    c.errorCounter ≤ (readAndWrite p sorted c r v line).1.errorCounter := by
  unfold readAndWrite
  split
  · exact Nat.le_succ _
  · exact Nat.le_refl _
  · next row _ =>
    have h := write_errorCounter sorted c row
    split
    · next heq =>
      rw [heq] at h
      exact h
    · next heq =>
      rw [heq] at h
      exact h

theorem writeNames_errorCounter (c : Common) (names : Option Text) :
    (c.writeNames names).errorCounter = c.errorCounter := by
  unfold Common.writeNames
  split
  · rfl
  · split
    · rfl
    · rfl

theorem processLine_errorCounter (p : Setup) (sorted checkOnly : Bool) (c : Common) (r : Reference)
    (v : Variables) (line : Text) :
    c.errorCounter ≤ (processLine p sorted checkOnly c r v line).1.errorCounter := by
  unfold processLine
  split
  · split
    · exact Nat.le_succ _
    · next checked _ =>
      have hnames := writeNames_errorCounter c checked.names
      dsimp only
      split
      · exact Nat.le_of_eq hnames.symm
      · rw [← hnames]
        exact readAndWrite_errorCounter _ _ _ _
  · exact readAndWrite_errorCounter _ _ _ _

theorem step_errorCounter (c : Common) (t : Task) :
    c.errorCounter ≤ (Task.step p sorted c t).1.errorCounter := by
  unfold Task.step
  split
  · exact Nat.le_refl _
  · next line lines _ =>
    have h := processLine_errorCounter p sorted false c t.reference t.vars line
    split
    · next heq =>
      rw [heq] at h
      exact h
    · next heq =>
      rw [heq] at h
      exact h

/-! ## Schedules -/

/-- The rows are written or left, or two of them have the same key. -/
def Progress (p : Setup) (type : InputType) (sorted : Bool) (total : List OutputEntry)
    (pool : Pool Common Task) : Prop :=
  (∃ rows, Written p type sorted pool.shared rows ∧ (∀ t ∈ pool.tasks, t.Ok p type) ∧
    (rows ++ pool.tasks.flatMap (Task.todo p type)).Perm total) ∨
  0 < pool.shared.errorCounter ∧ sorted = true ∧ ¬ (total.map OutputEntry.key).Nodup

theorem forall_set {ts : List Task} {i : Nat} {t : Task} {P : Task → Prop} (h : ∀ t ∈ ts, P t)
    (ht : P t) : ∀ u ∈ ts.set i t, P u := by
  intro u hu
  rcases List.mem_or_eq_of_mem_set hu with hu | rfl
  · exact h u hu
  · exact ht

/-- A step of any task. -/
theorem step_progress {total : List OutputEntry} {c : Common} {ts : List Task} {i : Nat} {t : Task}
    (h : Progress p type sorted total ⟨c, ts⟩) (ht : ts[i]? = some t) :
    Progress p type sorted total ⟨(Task.step p sorted c t).1, ts.set i (Task.step p sorted c t).2⟩ := by
  rcases h with ⟨rows, hwritten, hok, hperm⟩ | ⟨herrors, hrest⟩
  · have htmem : t ∈ ts := List.mem_of_getElem? ht
    cases hlines : t.lines with
    | nil =>
      have hstep : Task.step p sorted c t = (c, t) := by
        unfold Task.step
        rw [hlines]
      rw [hstep]
      dsimp only
      obtain ⟨hi, hget⟩ := List.getElem?_eq_some_iff.mp ht
      rw [← hget, List.set_getElem_self]
      exact Or.inl ⟨rows, hwritten, hok, hperm⟩
    | cons line lines =>
      obtain ⟨v, row, hok', htodo, ⟨rfl, hstep⟩ | ⟨r, rfl, hstep⟩⟩ :=
        (hok t htmem).step hlines sorted c
      · rw [hstep]
        refine Or.inl ⟨rows, hwritten, forall_set hok hok', ?_⟩
        exact ((Pool.flatMap_set_perm ht htodo).append_left rows).symm.trans hperm
      · have hflat := Pool.flatMap_set_perm ht htodo
        have htotal : (rows ++ (r :: (ts.set i ⟨lines, t.reference, v⟩).flatMap
            (Task.todo p type))).Perm total := (hflat.append_left rows).symm.trans hperm
        rw [hstep]
        rcases hwritten.write r with ⟨hsuccess, rows', hrows', hwritten'⟩ |
          ⟨hfailure, hsorted, hmem, herrors⟩
        · rw [hsuccess]
          refine Or.inl ⟨rows', hwritten', forall_set hok hok', ?_⟩
          exact ((hrows'.append_right _).trans List.perm_middle.symm).trans htotal
        · -- the key is that of a row in the set
          refine Or.inr ⟨herrors, hsorted, fun hnodup => ?_⟩
          have hkeys := (htotal.map OutputEntry.key).nodup_iff.mpr hnodup
          rw [List.map_append, List.map_cons] at hkeys
          exact (List.nodup_append.mp hkeys).2.2 _ hmem _ List.mem_cons_self rfl
  · exact Or.inr ⟨Nat.lt_of_lt_of_le herrors (step_errorCounter c t), hrest⟩

theorem run_progress {total : List OutputEntry} {pool : Pool Common Task}
    (h : Progress p type sorted total pool) (schedule : List Nat) :
    Progress p type sorted total (pool.run (Task.step p sorted) schedule) :=
  Pool.run_invariant (fun _ _ _ _ hp ht => step_progress hp ht) h schedule

/-! ## Begin and end -/

theorem WellFormed.task_ok {lines : List Text} (h : WellFormed p type lines) {r : Reference}
    (hformat : r.format.Is type) (hcolumns : r.columns = type.columns) :
    (Task.start r lines).Ok p type ∧ (Task.start r lines).todo p type = fileRows p type lines := by
  have hrest : (Task.start r lines).rest p type = some (fileRows p type lines) := h.rowsOf_eq rfl
  refine ⟨⟨hformat, hcolumns, Or.inr h.first, by rw [hrest]; rfl⟩, ?_⟩
  unfold Task.todo
  rw [hrest]
  rfl

/-- The first file gives the type, and the column names are written. -/
theorem postTasks_eq (sorted : Bool) {files : List (List Text)} (hne : files ≠ [])
    (h : ∀ lines ∈ files, WellFormed p type lines) :
    ∃ r : Reference, r.format.Is type ∧ r.columns = type.columns ∧
      postTasks p sorted files =
        some ⟨⟨[], [namesLine p type], true, 0, 0⟩, files.map (Task.start r)⟩ := by
  match files, hne with
  | file :: files, _ =>
    obtain ⟨line, lines, rfl, haccepts⟩ := (h file List.mem_cons_self).first
    obtain ⟨names, hnames⟩ := columnNames_known haccepts.known
    obtain ⟨format, hformat, hcheck⟩ :=
      haccepts.establishes ⟨.unknown, []⟩ rfl 0 p.separator hnames
    have hlength := haccepts.length
    refine ⟨⟨format, type.columns⟩, hformat, rfl, ?_⟩
    have hline : processLine p sorted true .start ⟨⟨.unknown, []⟩, 0⟩ .start line =
        (⟨[], [namesLine p type], true, 0, 0⟩, .returned ⟨format, type.columns⟩ true) := by
      unfold processLine
      rw [if_pos ⟨by omega, haccepts.head, rfl⟩, hcheck]
      unfold namesLine
      rw [hnames]
      rfl
    have hdump : dumpResultsFile p sorted true .start ⟨⟨.unknown, []⟩, 0⟩ .start (line :: lines) =
        (⟨[], [namesLine p type], true, 0, 0⟩, ⟨format, type.columns⟩, true) := by
      unfold dumpResultsFile
      rw [hline]
    unfold postTasks
    dsimp only
    rw [hdump]

/-- Behind any schedule that brings all tasks to their end, all rows are written, or two of them have
the same key. -/
theorem run_ended {files : List (List Text)} (hne : files ≠ [])
    (h : ∀ lines ∈ files, WellFormed p type lines) {schedule : List Nat}
    (hjoined : Joined p sorted files schedule) :
    ∃ c, output p sorted files schedule = printResults sorted c ∧
      ((∃ rows, Written p type sorted c rows ∧ rows.Perm (files.flatMap (fileRows p type))) ∨
        0 < c.errorCounter ∧ sorted = true ∧
          ¬ ((files.flatMap (fileRows p type)).map OutputEntry.key).Nodup) := by
  obtain ⟨r, hformat, hcolumns, hpost⟩ := postTasks_eq sorted hne h
  refine ⟨_, by unfold output; rw [hpost], ?_⟩
  have htodo : (files.map (Task.start r)).flatMap (Task.todo p type) =
      files.flatMap (fileRows p type) := by
    rw [List.flatMap_map]
    refine List.flatMap_congr fun lines hlines => ?_
    exact ((h lines hlines).task_ok hformat hcolumns).2
  have hstart : Progress p type sorted (files.flatMap (fileRows p type))
      ⟨⟨[], [namesLine p type], true, 0, 0⟩, files.map (Task.start r)⟩ := by
    refine Or.inl ⟨[], ⟨rfl, fun _ => ⟨rfl, rfl, SortedSet.sorted_nil⟩, fun _ => rfl⟩, ?_, ?_⟩
    · intro t ht
      obtain ⟨lines, hlines, rfl⟩ := List.mem_map.mp ht
      exact ((h lines hlines).task_ok hformat hcolumns).1
    · rw [htodo]
      exact List.Perm.refl _
  rcases run_progress hstart schedule with ⟨rows, hwritten, -, hperm⟩ | herrors
  · left
    refine ⟨rows, hwritten, ?_⟩
    have hnone : ∀ t ∈ (Pool.run (Task.step p sorted)
        ⟨⟨[], [namesLine p type], true, 0, 0⟩, files.map (Task.start r)⟩ schedule).tasks,
        t.todo p type = [] := fun t ht => Task.todo_nil (hjoined _ hpost t ht)
    rw [List.flatMap_eq_nil_iff.mpr hnone, List.append_nil] at hperm
    exact hperm
  · exact Or.inr herrors

/-- Different keys: each two rows are ordered by `operator<`. -/
def DistinctKeys (rows : List OutputEntry) : Prop :=
  rows.Pairwise fun a b => a.less b = true ∨ b.less a = true

theorem distinctKeys_iff {rows : List OutputEntry} :
    DistinctKeys rows ↔ (rows.map OutputEntry.key).Nodup := by
  show rows.Pairwise _ ↔ (rows.map OutputEntry.key).Pairwise (· ≠ ·)
  rw [List.pairwise_map]
  refine List.Pairwise.iff fun {a b} => ?_
  rw [OutputEntry.less_compares, OutputEntry.less_compares, ne_iff_lt_or_gt]

/-- There is a schedule with which all tasks come to their end. -/
theorem exists_joined (p : Setup) (sorted : Bool) (files : List (List Text)) :
    ∃ schedule, Joined p sorted files schedule := by
  have hleft : ∀ c t, 0 < t.lines.length → (Task.step p sorted c t).2.lines.length < t.lines.length := by
    intro c t hpos
    unfold Task.step
    split
    · next hlines =>
      rw [hlines] at hpos
      cases hpos
    · next line lines hlines =>
      rw [hlines]
      split
      · exact Nat.succ_pos _
      · exact Nat.lt_succ_self _
  cases hpost : postTasks p sorted files with
  | none => exact ⟨[], fun pool hpool => by rw [hpost] at hpool; cases hpool⟩
  | some pool =>
    obtain ⟨schedule, h⟩ := Pool.exists_schedule hleft pool
    refine ⟨schedule, fun pool' hpool' t ht => ?_⟩
    rw [hpost] at hpool'
    obtain rfl := Option.some.inj hpool'
    exact List.length_eq_zero_iff.mp (h t ht)

/-! ## Output -/

/-- **Sorted output**: all rows with increasing keys, or an error if two rows have the same key. -/
theorem sorted_output {files : List (List Text)} (hne : files ≠ [])
    (h : ∀ lines ∈ files, WellFormed p type lines) {schedule : List Nat}
    (hjoined : Joined p true files schedule) :
    if ((files.flatMap (fileRows p type)).map OutputEntry.key).Nodup then
      ∃ rows : List OutputEntry, rows.Perm (files.flatMap (fileRows p type)) ∧
        SortedSet.Sorted OutputEntry.key rows ∧
        output p true files schedule = some (namesLine p type :: rows.map (·.line))
    else output p true files schedule = none := by
  obtain ⟨c, houtput, ⟨rows, hwritten, hperm⟩ | ⟨herrors, -, hsame⟩⟩ := run_ended hne h hjoined
  · obtain ⟨hstream, hset, hsorted⟩ := hwritten.ordered rfl
    rw [if_pos ((hperm.map OutputEntry.key).nodup_iff.mp hsorted.nodup)]
    refine ⟨rows, hperm, hsorted, ?_⟩
    rw [houtput]
    unfold printResults
    rw [hwritten.noErrors, if_neg (Nat.lt_irrefl 0), if_pos rfl, hstream, hset]
    rfl
  · rw [if_neg hsame, houtput]
    unfold printResults
    rw [if_pos herrors]

theorem unsorted_output {files : List (List Text)} (hne : files ≠ [])
    (h : ∀ lines ∈ files, WellFormed p type lines) {schedule : List Nat}
    (hjoined : Joined p false files schedule) :
    ∃ rows : List OutputEntry, rows.Perm (files.flatMap (fileRows p type)) ∧
      output p false files schedule = some (namesLine p type :: rows.map (·.line)) := by
  obtain ⟨c, houtput, ⟨rows, hwritten, hperm⟩ | ⟨-, hsorted, -⟩⟩ := run_ended hne h hjoined
  · refine ⟨rows, hperm, ?_⟩
    rw [houtput]
    unfold printResults
    rw [hwritten.noErrors, if_neg (Nat.lt_irrefl 0), if_neg nofun, hwritten.unordered rfl]
  · cases hsorted

/-- Files of one type with the same blocks in files of the same version. -/
structure SameBlocks (p : Setup) (type : InputType) (files files' : List (List Text)) : Prop where
  wellFormed : ∀ lines ∈ files, WellFormed p type lines
  wellFormed' : ∀ lines ∈ files', WellFormed p type lines
  blocks_perm : (files.flatMap (fileBlocks type)).Perm (files'.flatMap (fileBlocks type))

theorem rows_perm (p : Setup) {files files' : List (List Text)}
    (h : (files.flatMap (fileBlocks type)).Perm (files'.flatMap (fileBlocks type))) :
    (files.flatMap (fileRows p type)).Perm (files'.flatMap (fileRows p type)) := by
  have heq : ∀ fs : List (List Text), fs.flatMap (fileRows p type) =
      (fs.flatMap (fileBlocks type)).flatMap (versionedRows p type) := by
    intro fs
    rw [List.flatMap_assoc]
    rfl
  rw [heq, heq]
  exact h.flatMap_right _

/-- **Scheduling.**  Files with the same blocks, whose rows have different keys, are merged to the same
output, with any schedules; without sorting, the rows are the same but for their order. -/
theorem merged_output {files files' : List (List Text)} (h : SameBlocks p type files files')
    (hne : files ≠ []) (hne' : files' ≠ [])
    (hkeys : DistinctKeys (files.flatMap (fileRows p type))) :
    ∃ rows : List OutputEntry, rows.Perm (files.flatMap (fileRows p type)) ∧
      rows.Pairwise (fun a b => a.less b = true) ∧
      (∀ schedule, Joined p true files schedule →
        output p true files schedule = some (namesLine p type :: rows.map (·.line))) ∧
      (∀ schedule, Joined p true files' schedule →
        output p true files' schedule = some (namesLine p type :: rows.map (·.line))) ∧
      ∀ schedule, Joined p false files schedule →
        ∃ lines, output p false files schedule = some (namesLine p type :: lines) ∧
          lines.Perm (rows.map (·.line)) := by
  have hnodup := distinctKeys_iff.mp hkeys
  have hperm := rows_perm p h.blocks_perm
  obtain ⟨schedule, hjoined⟩ := exists_joined p true files
  have hfirst := sorted_output hne h.wellFormed hjoined
  rw [if_pos hnodup] at hfirst
  obtain ⟨rows, hrows, hsorted, -⟩ := hfirst
  refine ⟨rows, hrows, ?_, ?_, ?_, ?_⟩
  · exact hsorted.imp fun hlt => (OutputEntry.less_compares _ _).mpr hlt
  · intro schedule hjoined
    have houtput := sorted_output hne h.wellFormed hjoined
    rw [if_pos hnodup] at houtput
    obtain ⟨others, hothers, hsorted', houtput⟩ := houtput
    rw [houtput, hsorted'.eq_of_perm hsorted (hothers.trans hrows.symm)]
  · intro schedule hjoined
    have houtput := sorted_output hne' h.wellFormed' hjoined
    rw [if_pos ((hperm.map OutputEntry.key).nodup_iff.mp hnodup)] at houtput
    obtain ⟨others, hothers, hsorted', houtput⟩ := houtput
    rw [houtput, hsorted'.eq_of_perm hsorted (hothers.trans (hperm.symm.trans hrows.symm))]
  · intro schedule hjoined
    obtain ⟨others, hothers, houtput⟩ := unsorted_output hne h.wellFormed hjoined
    exact ⟨_, houtput, (hothers.trans hrows.symm).map _⟩

/-! ## Two rounds -/

def twoAddresses : Setup where
  separator := ','
  makeAddress := fun value =>
    if value = "10.0.0.1".toList then .ok (.v4 0x0a000001)
    else if value = "10.0.0.2".toList then .ok (.v4 0x0a000002)
    else .error "Invalid argument"

/-- A Traceroute file with a block for each round. -/
def roundsFile (rounds : List String) : List Text :=
  "#? HPCT Traceroute 2 HiPerConTracer".toList :: rounds.flatMap fun round =>
    ["#Ti 1 10.0.0.1 10.0.0.2 178f2cc6c7ea013a ".toList ++ round.toList ++
        " 1 0 44 90e1 0 0 200 a7cfb997ef00d133".toList,
      "\t178f2cc6c7ea013a 1 56 255 00000000 -1 -1 -1 1000 -1 -1 10.0.0.2".toList]

/-- The blocks of one file in two files, in the other order. -/
theorem merged_output_two_rounds :
    ∃ rows : List OutputEntry,
      rows.Perm ([roundsFile ["0", "1"]].flatMap (fileRows twoAddresses .traceroute)) ∧
      rows.Pairwise (fun a b => a.less b = true) ∧
      (∀ schedule, Joined twoAddresses true [roundsFile ["0", "1"]] schedule →
        output twoAddresses true [roundsFile ["0", "1"]] schedule =
          some (namesLine twoAddresses .traceroute :: rows.map (·.line))) ∧
      (∀ schedule, Joined twoAddresses true [roundsFile ["1"], roundsFile ["0"]] schedule →
        output twoAddresses true [roundsFile ["1"], roundsFile ["0"]] schedule =
          some (namesLine twoAddresses .traceroute :: rows.map (·.line))) ∧
      ∀ schedule, Joined twoAddresses false [roundsFile ["0", "1"]] schedule →
        ∃ lines, output twoAddresses false [roundsFile ["0", "1"]] schedule =
            some (namesLine twoAddresses .traceroute :: lines) ∧
          lines.Perm (rows.map (·.line)) :=
  merged_output
    ⟨by decide +kernel, by decide +kernel,
      List.isPerm_iff.mp (by decide +kernel)⟩
    (List.cons_ne_nil _ _) (List.cons_ne_nil _ _)
    (distinctKeys_iff.mpr (by decide +kernel))

end HiPerConTracer.Merge
