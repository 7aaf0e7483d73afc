import HiPerConTracer.Merge.Tasks

/-!
# Blocks of results files

A block is a line with a `#`, with the lines behind it up to the next one; identification lines and
lines with less than two characters do not count.  The line with the `#` replaces all that the lines
before have left behind, but for the version, so that the rows of a file are those of its blocks, each
of them read on its own:

    rows of the file = the rows of its blocks, one block after the other              (rowsOf_blocks)
-/

namespace HiPerConTracer.Merge
open Results (Text Failure convertOldTracerouteLine)

variable {p : Setup} {type : InputType} {columns : Nat}

/-! ## Files -/

/-- Identification lines, and lines without content. -/
def isSkipped (line : Text) : Bool :=
  line.length < 2 ∨ (line.head? = some '#' ∧ line.getD 1 '\x00' = '?')

/-- The lines in front of the first block, and the blocks. -/
def blocks : List Text → List Text × List (List Text)
  | [] => ([], [])
  | line :: lines =>
    if isSkipped line then blocks lines
    else if line.head? = some '#' then ([], (line :: (blocks lines).1) :: (blocks lines).2)
    else (line :: (blocks lines).1, (blocks lines).2)

/-- The version of a file, from its first line. -/
def fileVersion (type : InputType) (lines : List Text) : Nat :=
  match lines with
  | [] => 0
  | line :: _ => lineVersion type line

/-- The rows of lines behind the check of the format; none if there is an error. -/
def rowsOf (p : Setup) (type : InputType) (columns : Nat) (v : Variables) :
    List Text → Option (List OutputEntry)
  | [] => some []
  | line :: lines =>
    match readLine p type columns v line with
    | .error _ => none
    | .ok (v, row) => (rowsOf p type columns v lines).map (row.toList ++ ·)

/-- The rows of a block on its own. -/
def blockRows (p : Setup) (type : InputType) (version : Nat) (block : List Text) :
    Option (List OutputEntry) :=
  rowsOf p type type.columns ⟨version, none, 0⟩ block

/-- The file begins with a line of the type, and there are no lines in front of the first block, and no
errors in the blocks. -/
structure WellFormed (p : Setup) (type : InputType) (lines : List Text) : Prop where
  first : ∃ line rest, lines = line :: rest ∧ Accepts type (fileVersion type lines) line
  noOrphans : (blocks lines).1 = []
  accepted : ∀ block ∈ (blocks lines).2, (blockRows p type (fileVersion type lines) block).isSome

instance (p : Setup) (type : InputType) (lines : List Text) : Decidable (WellFormed p type lines) :=
  decidable_of_iff
    ((∃ line ∈ lines.head?, Accepts type (fileVersion type lines) line) ∧ (blocks lines).1 = [] ∧
      ∀ block ∈ (blocks lines).2, (blockRows p type (fileVersion type lines) block).isSome)
    ⟨fun ⟨⟨line, hline, haccepts⟩, noOrphans, accepted⟩ =>
      ⟨⟨line, lines.tail, (List.cons_head?_tail hline).symm, haccepts⟩, noOrphans, accepted⟩,
      fun h => ⟨h.first.elim fun line ⟨_, hlines, haccepts⟩ => ⟨line, by rw [hlines]; rfl, haccepts⟩,
        h.noOrphans, h.accepted⟩⟩

/-- The blocks with the version of the file. -/
def fileBlocks (type : InputType) (lines : List Text) : List (Nat × List Text) :=
  (blocks lines).2.map (fileVersion type lines, ·)

def versionedRows (p : Setup) (type : InputType) (block : Nat × List Text) : List OutputEntry :=
  (blockRows p type block.1 block.2).getD []

/-- The rows of a file. -/
def fileRows (p : Setup) (type : InputType) (lines : List Text) : List OutputEntry :=
  (fileBlocks type lines).flatMap (versionedRows p type)

/-! ## Independence -/

/-- Variables that make no difference for the lines that follow. -/
structure Alike (type : InputType) (v w : Variables) : Prop where
  version : v.version = w.version
  newEntry : v.newEntry = w.newEntry
  oldTimeStamp : type = .traceroute → v.version < 2 → v.oldTimeStamp = w.oldTimeStamp

/-- The same row, and variables that make no difference. -/
def AlikeResults (type : InputType) (r r' : Except Fatal (Variables × Option OutputEntry)) : Prop :=
  ∀ v row, r = .ok (v, row) → ∃ w, r' = .ok (w, row) ∧ Alike type v w

theorem convert_alike {v w : Variables} {line line' : Text} {time : Nat}
    (hversion : v.version = w.version)
    (htime : type = .traceroute → v.version < 2 →
      v.oldTimeStamp = w.oldTimeStamp ∨ line.head? = some '#')
    (h : convert type v line = .ok (line', time)) :
    ∃ time', convert type w line = .ok (line', time') ∧
      (type = .traceroute → v.version < 2 → time = time') := by
  unfold convert at h ⊢
  rw [← hversion]
  split at h
  · next hlt =>
    rw [if_pos hlt]
    cases type with
    | unknown =>
      cases h
      exact ⟨_, rfl, nofun⟩
    | jitter =>
      cases h
      exact ⟨_, rfl, nofun⟩
    | ping =>
      obtain ⟨converted, hconverted, heq⟩ := Run.map_ok h
      cases heq
      exact ⟨_, by dsimp only; rw [hconverted]; rfl, nofun⟩
    | traceroute =>
      dsimp only at h ⊢
      rcases htime rfl hlt with heq | hhead
      · rw [← heq]
        exact ⟨time, h, fun _ _ => rfl⟩
      · obtain ⟨value, hvalue, ⟨-, -, -, hany⟩ | ⟨htab, -, -⟩⟩ :=
          Results.convertOldTracerouteLine_ok h
        · exact ⟨time, hany _, fun _ _ => rfl⟩
        · rw [Results.line_head hvalue htab] at hhead
          cases hhead
  · next hge =>
    rw [if_neg hge]
    cases h
    exact ⟨_, rfl, fun _ hlt => absurd hlt hge⟩

/-- A line with a `#` depends on the version alone. -/
theorem readHeader_alike {v w : Variables} {line : Text} (hversion : v.version = w.version)
    (hhead : line.head? = some '#') :
    AlikeResults type (readHeader p type columns v line) (readHeader p type columns w line) := by
  intro u row h
  unfold readHeader at h ⊢
  cases hconvert : convert type v line with
  | error what =>
    rw [hconvert] at h
    cases h
  | ok converted =>
    obtain ⟨line', time⟩ := converted
    obtain ⟨time', hconvert', htime⟩ := convert_alike hversion (fun _ _ => Or.inr hhead) hconvert
    rw [hconvert] at h
    rw [hconvert']
    dsimp only at h ⊢
    split at h
    · cases h
    · next hlength =>
      rw [if_neg hlength]
      cases hentry : headerEntry p type line' with
      | error what =>
        rw [hentry] at h
        cases h
      | ok newEntry =>
        rw [hentry] at h
        dsimp only at h ⊢
        split at h
        · next htype =>
          rw [if_pos htype]
          cases hrow : finishRow p columns newEntry with
          | error e =>
            rw [hrow] at h
            cases h
          | ok finished =>
            rw [hrow] at h
            cases h
            exact ⟨_, rfl, ⟨hversion, rfl, fun htraceroute => absurd htraceroute htype⟩⟩
        · next htype =>
          rw [if_neg htype]
          cases h
          exact ⟨_, rfl, ⟨hversion, rfl, htime⟩⟩

theorem readHop_alike {v w : Variables} {line : Text} (h : Alike .traceroute v w) :
    AlikeResults .traceroute (readHop p columns v line) (readHop p columns w line) := by
  intro u row hread
  unfold readHop at hread ⊢
  cases hconvert : convert .traceroute v line with
  | error what =>
    rw [hconvert] at hread
    cases hread
  | ok converted =>
    obtain ⟨line', time⟩ := converted
    obtain ⟨time', hconvert', htime⟩ :=
      convert_alike h.version (fun ht hlt => Or.inl (h.oldTimeStamp ht hlt)) hconvert
    rw [hconvert] at hread
    rw [hconvert', ← h.newEntry]
    dsimp only at hread ⊢
    cases hentry : v.newEntry with
    | none =>
      rw [hentry] at hread
      cases hread
    | some newEntry =>
      rw [hentry] at hread
      dsimp only at hread ⊢
      split at hread
      · cases hread
      · cases hread
        exact ⟨_, rfl, ⟨h.version, rfl, htime⟩⟩

theorem readLine_alike {v w : Variables} {line : Text} (h : Alike type v w) :
    AlikeResults type (readLine p type columns v line) (readLine p type columns w line) := by
  have hnone : AlikeResults type (.ok (v, none)) (.ok (w, none)) := by
    intro u row hok
    cases hok
    exact ⟨w, rfl, h⟩
  unfold readLine
  by_cases hshort : line.length < 2
  · simp only [if_pos hshort]
    exact hnone
  · simp only [if_neg hshort]
    by_cases hhead : line.head? = some '#'
    · simp only [if_pos hhead]
      by_cases hid : line.getD 1 '\x00' = '?'
      · simp only [if_pos hid]
        exact hnone
      · simp only [if_neg hid]
        exact readHeader_alike h.version hhead
    · simp only [if_neg hhead]
      by_cases htab : line.head? = some '\t'
      · simp only [if_pos htab]
        by_cases htype : type = .traceroute
        · subst htype
          exact readHop_alike h
        · simp only [if_neg htype]
          exact hnone
      · simp only [if_neg htab]
        intro u row hok
        cases hok

theorem rowsOf_alike {v w : Variables} {lines : List Text} {rows : List OutputEntry}
    (h : Alike type v w) (hrows : rowsOf p type columns v lines = some rows) :
    rowsOf p type columns w lines = some rows := by
  induction lines generalizing v w rows with
  | nil => exact hrows
  | cons line lines ih =>
    unfold rowsOf at hrows ⊢
    split at hrows
    · cases hrows
    · next v' row hread =>
      obtain ⟨w', hread', halike⟩ := readLine_alike h _ _ hread
      obtain ⟨rest, hrest, rfl⟩ := Option.map_eq_some_iff.mp hrows
      rw [hread']
      dsimp only
      rw [ih halike hrest]
      rfl

/-! ## Rows of blocks -/

theorem readLine_skipped {v : Variables} {line : Text} (h : isSkipped line = true) :
    readLine p type columns v line = .ok (v, none) := by
  unfold readLine
  rcases of_decide_eq_true h with hshort | ⟨hhead, hid⟩
  · rw [if_pos hshort]
  · by_cases hshort : line.length < 2
    · rw [if_pos hshort]
    · rw [if_neg hshort, if_pos hhead, if_pos hid]

theorem readLine_header {v : Variables} {line : Text} (h : isSkipped line = false)
    (hhead : line.head? = some '#') :
    readLine p type columns v line = readHeader p type columns v line := by
  have hno := of_decide_eq_false h
  unfold readLine
  rw [if_neg fun hshort => hno (Or.inl hshort), if_pos hhead,
    if_neg fun hid => hno (Or.inr ⟨hhead, hid⟩)]

theorem readLine_version {v w : Variables} {line : Text} {row : Option OutputEntry}
    (h : readLine p type columns v line = .ok (w, row)) : w.version = v.version := by
  unfold readLine at h
  split at h
  · cases h
    rfl
  · split at h
    · split at h
      · cases h
        rfl
      · unfold readHeader at h
        split at h
        · cases h
        · split at h
          · cases h
          · split at h
            · cases h
            · split at h
              · split at h
                · cases h
                · cases h
                  rfl
              · cases h
                rfl
    · split at h
      · split at h
        · unfold readHop at h
          split at h
          · cases h
          · split at h
            · cases h
            · dsimp only at h
              split at h
              · cases h
              · cases h
                rfl
        · cases h
          rfl
      · cases h

/-- **Blocks.**  The rows of the lines in front of the first block, and those of the blocks. -/
theorem rowsOf_blocks {version : Nat} {v : Variables} {lines : List Text}
    {rows : List OutputEntry} (hversion : v.version = version)
    (hrows : rowsOf p type type.columns v (blocks lines).1 = some rows)
    (haccepted : ∀ block ∈ (blocks lines).2, (blockRows p type version block).isSome) :
    rowsOf p type type.columns v lines =
      some (rows ++ (blocks lines).2.flatMap fun block =>
        (blockRows p type version block).getD []) := by
  induction lines generalizing v rows with
  | nil =>
    cases hrows
    rfl
  | cons line lines ih =>
    unfold blocks at hrows haccepted ⊢
    by_cases hskipped : isSkipped line = true
    · simp only [if_pos hskipped] at hrows haccepted ⊢
      unfold rowsOf
      rw [readLine_skipped hskipped]
      dsimp only
      rw [ih hversion hrows haccepted]
      rfl
    · simp only [if_neg hskipped] at hrows haccepted ⊢
      by_cases hhead : line.head? = some '#'
      · simp only [if_pos hhead] at hrows haccepted ⊢
        cases hrows
        -- what the lines before have left behind makes no difference for the new block
        obtain ⟨own, hown⟩ := Option.isSome_iff_exists.mp (haccepted _ List.mem_cons_self)
        have hblock := hown
        unfold blockRows rowsOf at hown
        split at hown
        · cases hown
        · next v' row hread =>
          obtain ⟨rest, hrest, rfl⟩ := Option.map_eq_some_iff.mp hown
          have hheader : ∀ u : Variables, readLine p type type.columns u line =
              readHeader p type type.columns u line :=
            fun u => readLine_header (Bool.eq_false_of_not_eq_true hskipped) hhead
          have hversion' := readLine_version hread
          rw [hheader] at hread
          obtain ⟨w, hread', halike⟩ :=
            readHeader_alike (w := v) hversion.symm hhead _ _ hread
          have hrest' := rowsOf_alike halike hrest
          have hw : w.version = version := halike.version.symm.trans hversion'
          have htail := ih hw hrest' fun block hb => haccepted block (List.mem_cons_of_mem _ hb)
          unfold rowsOf
          rw [hheader, hread']
          dsimp only
          rw [htail, List.flatMap_cons, hblock]
          simp
      · simp only [if_neg hhead] at hrows haccepted ⊢
        unfold rowsOf at hrows ⊢
        split at hrows
        · cases hrows
        · next v' row hread =>
          obtain ⟨rest, hrest, rfl⟩ := Option.map_eq_some_iff.mp hrows
          have hversion' : v'.version = version := (readLine_version hread).trans hversion
          rw [ih hversion' hrest haccepted]
          simp

/-- The rows of a file. -/
theorem WellFormed.rowsOf_eq {lines : List Text} (h : WellFormed p type lines) {v : Variables}
    (hv : v.version = fileVersion type lines) :
    rowsOf p type type.columns v lines = some (fileRows p type lines) := by
  have hrows : rowsOf p type type.columns v (blocks lines).1 = some [] := by
    rw [h.noOrphans]
    rfl
  rw [rowsOf_blocks hv hrows h.accepted]
  unfold fileRows fileBlocks versionedRows
  rw [List.flatMap_map, List.nil_append]

end HiPerConTracer.Merge
