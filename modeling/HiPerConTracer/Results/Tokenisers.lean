import HiPerConTracer.Lib.Accesses
import HiPerConTracer.Results.Conversions

/-!
# The arrays of the tokenisers (`conversions.cc`, `hpct-results.cc`)

`convertOldPingLine`, `convertOldTracerouteLine` and `dumpResultsFile` keep where the columns of a
line begin, and how long they are, in the arrays `value[maxColumns]` and `length[maxColumns]`.  The
accesses are recorded here.  They stay within the arrays, and read only what has been written,
exactly if the line has less than `maxColumns` spaces:

    Safe 11 (pingAccesses line) ↔ separators line < 11                    (tokenisers_safe_iff)
    Safe 6 (entryAccesses type line) ↔ separators line < 6

For such lines, the result is that of the conversions (tokenisePingLine_yields).
-/

namespace HiPerConTracer.Results
open Accesses

inductive ColumnArray where
  | value
  | length
deriving DecidableEq, Repr

/-! ## Scanning -/

/-- The accesses of a scan, the begins of the columns, and the number of columns. -/
structure Columns where
  accesses : List (Access ColumnArray)
  value : List Text
  c : Nat

/-- The scan loop, from column `c` on; it is left when there is no place for another column. -/
def scanLoop (maxColumns : Nat) : Text → Nat → Columns
  | [], c => ⟨[], [], c⟩
  | ch :: rest, c =>
    if ch = ' ' then
      if c + 1 ≥ maxColumns then ⟨[.write .length c], [], c + 1⟩
      else
        let r := scanLoop maxColumns rest (c + 1)
        ⟨.write .length c :: .write .value (c + 1) :: r.accesses, rest :: r.value, r.c⟩
    else scanLoop maxColumns rest c

/-- The first column begins with the line, and the length of the last one is set at the end. -/
def scanColumns (maxColumns : Nat) (linestr : Text) : Columns :=
  let r := scanLoop maxColumns linestr 0
  ⟨.write .value 0 :: (r.accesses ++ [.write .length r.c]), linestr :: r.value, r.c + 1⟩

/-! ## Reading -/

abbrev Tokens (α : Type) : Type := Recording ColumnArray Failure α

/-- `std::string(value[k], length[k])`. -/
def readEntry (value : List Text) (k : Nat) : Tokens Text := do
  Recording.access (.read .value k)
  Recording.access (.read .length k)
  return entry value k

/-- A number from `value[k]`; the length is looked at if there is a number. -/
def readNumber (value : List Text) (k base : Nat) (function bad : String) : Tokens Nat := do
  Recording.access (.read .value k)
  match Numeral.scan base (column value k) with
  | .error _ => Recording.lift (.error (.exception function))
  | .ok (number, index) =>
    Recording.access (.read .length k)
    if index = (entry value k).length then return number
    else Recording.lift (.error (.dataError bad))

/-- `value[0][0]`. -/
def readFirst (value : List Text) : Tokens (Option Char) := do
  Recording.access (.read .value 0)
  return (column value 0).head?

/-- An optional column. -/
def readEntryIf (condition : Prop) [Decidable condition] (value : List Text) (k : Nat)
    (default : Text) : Tokens Text := if condition then readEntry value k else return default

/-- An exception becomes a data error. -/
def toDataError : Failure → Failure
  | .exception what => .dataError what
  | e => e

/-- The columns of `convertOldPingLine`. -/
def tokenisePing (r : Columns) : Tokens Text := do
  let timeStamp ← readNumber r.value 3 16 "stoull" "Bad time stamp"
  let rtt ← readNumber r.value 6 10 "stoull" "Bad RTT value"
  let e0 ← readEntry r.value 0
  let e1 ← readEntry r.value 1
  let e2 ← readEntry r.value 2
  let e7 ← readEntryIf (r.c ≥ 8) r.value 7 ['0']
  let e8 ← readEntryIf (r.c ≥ 9) r.value 8 ['0']
  let e4 ← readEntry r.value 4
  let e5 ← readEntry r.value 5
  let e9 ← readEntryIf (r.c ≥ 10) r.value 9 "00000000".toList
  return spaced [e0 ++ ['i'], ['0'], e1, e2, Numeral.text 16 (1000 * timeStamp % 2 ^ 64), ['0'],
    e7, e8, ['0'], e4, ['0'], ['0'], e5, e9, ['-', '1'], ['-', '1'], ['-', '1'],
    Numeral.text 10 (1000 * rtt % 2 ^ 64), ['-', '1'], ['-', '1']]

/-- `convertOldPingLine`. -/
def tokenisePingLine (r : Columns) : Tokens Text :=
  if r.c ≥ 7 then Recording.mapError toDataError (tokenisePing r)
  else Recording.lift (.error (.dataError "Unexpected number of columns"))

/-- The header line of `convertOldTracerouteLine`. -/
def tokeniseHeader (r : Columns) : Tokens (Text × Nat) := do
  let number ← readNumber r.value 3 16 "stoull" "Bad time stamp"
  let e0 ← readEntry r.value 0
  let e1 ← readEntry r.value 1
  let e2 ← readEntry r.value 2
  let e4 ← readEntry r.value 4
  let e6 ← readEntry r.value 6
  let e9 ← readEntryIf (r.c ≥ 10) r.value 9 "00000000".toList
  let e10 ← readEntryIf (r.c ≥ 11) r.value 10 ['0']
  let e5 ← readEntry r.value 5
  let e7 ← readEntry r.value 7
  let e8 ← readEntry r.value 8
  return (spaced [e0 ++ ['i'], ['0'], e1, e2, Numeral.text 16 (1000 * number % 2 ^ 64), e4, e6,
    e9, e10, e5, ['0'], ['0'], e7, e8], 1000 * number % 2 ^ 64)

/-- The hop line of `convertOldTracerouteLine`. -/
def tokeniseHop (r : Columns) (timeStamp : Nat) : Tokens (Text × Nat) := do
  let status ← readNumber r.value 2 16 "stoul" "Bad status value"
  let rtt ← readNumber r.value 3 10 "stoull" "Bad RTT value"
  let e1 ← readEntry r.value 1
  let e5 ← readEntryIf (r.c ≥ 6) r.value 5 "00000000".toList
  let e4 ← readEntry r.value 4
  return (spaced ['\t' :: Numeral.text 16 timeStamp, e1, ['0'],
    Numeral.text 10 (status % 2 ^ 32), e5, ['-', '1'], ['-', '1'], ['-', '1'],
    Numeral.text 10 (1000 * rtt % 2 ^ 64), ['-', '1'], ['-', '1'], e4], timeStamp)

/-- `convertOldTracerouteLine`. -/
def tokeniseTracerouteLine (r : Columns) (timeStamp : Nat) : Tokens (Text × Nat) :=
  if r.c > 0 then do
    let first ← readFirst r.value
    if first = some '#' ∧ r.c ≥ 9 then tokeniseHeader r
    else do
      let first ← readFirst r.value
      if first = some '\t' ∧ r.c ≥ 5 then tokeniseHop r timeStamp
      else Recording.lift (.error (.dataError "Unexpected number of columns"))
  else Recording.lift (.error (.dataError "Unexpected number of columns"))

/-- The columns that `dumpResultsFile` reads, the round number for Traceroute only; `makeAddress`
parses an address. -/
def tokeniseEntry (makeAddress : Text → Except Failure Unit) (traceroute : Bool) (r : Columns) :
    Tokens Unit :=
  if r.c < 6 then return ()
  else do
    let _ ← readNumber r.value 1 10 "stoul" "Bad measurement ID"
    let source ← readEntry r.value 2
    Recording.lift (makeAddress source)
    let destination ← readEntry r.value 3
    Recording.lift (makeAddress destination)
    let _ ← readNumber r.value 4 16 "stoull" "Bad time stamp"
    if traceroute then do
      let _ ← readNumber r.value 5 10 "stoul" "Bad round number"
      return ()
    else return ()

/-- The accesses of a call: those of the scan, and then those of the conversion. -/
def Columns.then {α : Type} (r : Columns) (m : Columns → Tokens α) : List (Access ColumnArray) :=
  (m r r.accesses).2

def pingAccesses (line : Text) : List (Access ColumnArray) :=
  (scanColumns 11 (cString line)).then tokenisePingLine

def tracerouteAccesses (line : Text) (timeStamp : Nat) : List (Access ColumnArray) :=
  (scanColumns 11 (cString line)).then (tokeniseTracerouteLine · timeStamp)

def entryAccesses (makeAddress : Text → Except Failure Unit) (traceroute : Bool) (line : Text) :
    List (Access ColumnArray) :=
  (scanColumns 6 (cString line)).then (tokeniseEntry makeAddress traceroute)

/-- The number of spaces in `linestr`. -/
def separators (line : Text) : Nat := (cString line).count ' '

/-! ## The scan -/

variable {maxColumns : Nat}

/-- There is a place for every column. -/
structure Fits (maxColumns c : Nat) (s : Text) : Prop where
  count : (scanLoop maxColumns s c).c = c + s.count ' '
  writes : ∀ a ∈ (scanLoop maxColumns s c).accesses, ∃ x k, a = .write x k ∧ k < maxColumns
  value : ∀ k, c < k → k ≤ c + s.count ' ' →
    .write .value k ∈ (scanLoop maxColumns s c).accesses
  length : ∀ k, c ≤ k → k < c + s.count ' ' →
    .write .length k ∈ (scanLoop maxColumns s c).accesses

theorem scanLoop_fits {s : Text} {c : Nat} (h : c + s.count ' ' < maxColumns) :
    Fits maxColumns c s := by
  induction s generalizing c with
  | nil =>
    refine ⟨rfl, fun a ha => (List.not_mem_nil ha).elim, ?_, ?_⟩ <;>
    · intro k hk hk'
      rw [List.count_nil] at hk'
      omega
  | cons ch rest ih =>
    by_cases hch : ch = ' '
    · subst hch
      rw [List.count_cons_self] at h
      have hrest := ih (c := c + 1) (by omega)
      have hscan : scanLoop maxColumns (' ' :: rest) c =
          ⟨.write .length c :: .write .value (c + 1) ::
              (scanLoop maxColumns rest (c + 1)).accesses,
            rest :: (scanLoop maxColumns rest (c + 1)).value,
            (scanLoop maxColumns rest (c + 1)).c⟩ := by
        simp only [scanLoop, if_true]
        rw [if_neg (by omega)]
      have hcount := hrest.count
      refine ⟨?_, ?_, ?_, ?_⟩
      · rw [hscan, List.count_cons_self]
        show (scanLoop maxColumns rest (c + 1)).c = _
        omega
      · intro a ha
        rw [hscan] at ha
        rcases List.mem_cons.mp ha with rfl | ha
        · exact ⟨_, _, rfl, by omega⟩
        · rcases List.mem_cons.mp ha with rfl | ha
          · exact ⟨_, _, rfl, by omega⟩
          · exact hrest.writes a ha
      · intro k hk hk'
        rw [List.count_cons_self] at hk'
        rw [hscan]
        by_cases hnext : k = c + 1
        · subst hnext
          exact List.mem_cons_of_mem _ List.mem_cons_self
        · exact List.mem_cons_of_mem _ (List.mem_cons_of_mem _ (hrest.value k (by omega) (by omega)))
      · intro k hk hk'
        rw [List.count_cons_self] at hk'
        rw [hscan]
        by_cases hnow : k = c
        · subst hnow
          exact List.mem_cons_self
        · exact List.mem_cons_of_mem _ (List.mem_cons_of_mem _ (hrest.length k (by omega) (by omega)))
    · have hscan : scanLoop maxColumns (ch :: rest) c = scanLoop maxColumns rest c := by
        simp only [scanLoop, if_neg hch]
      rw [List.count_cons_of_ne hch] at h
      have hrest := ih h
      refine ⟨?_, ?_, ?_, ?_⟩
      · rw [hscan, List.count_cons_of_ne hch]
        exact hrest.count
      · rw [hscan]
        exact hrest.writes
      · rw [hscan, List.count_cons_of_ne hch]
        exact hrest.value
      · rw [hscan, List.count_cons_of_ne hch]
        exact hrest.length

/-- The loop is left after the last column. -/
theorem scanLoop_break {s : Text} {c : Nat} (hc : c < maxColumns)
    (h : maxColumns ≤ c + s.count ' ') : (scanLoop maxColumns s c).c = maxColumns := by
  induction s generalizing c with
  | nil =>
    rw [List.count_nil] at h
    omega
  | cons ch rest ih =>
    simp only [scanLoop]
    by_cases hch : ch = ' '
    · subst hch
      rw [List.count_cons_self] at h
      rw [if_pos rfl]
      by_cases hlast : c + 1 ≥ maxColumns
      · rw [if_pos hlast]
        show c + 1 = maxColumns
        omega
      · rw [if_neg hlast]
        exact ih (by omega) (by omega)
    · rw [List.count_cons_of_ne hch] at h
      rw [if_neg hch]
      exact ih hc h

/-- The begins are those of `obtainEntries`. -/
theorem scanLoop_value {s : Text} {c : Nat} (h : c + s.count ' ' < maxColumns) :
    obtainEntries (maxColumns - c) s = .ok (s :: (scanLoop maxColumns s c).value) := by
  induction s generalizing c with
  | nil =>
    have hpos : maxColumns - c = maxColumns - c - 1 + 1 := by omega
    rw [hpos]
    rfl
  | cons ch rest ih =>
    have hpos : maxColumns - c = maxColumns - (c + 1) + 1 := by omega
    by_cases hch : ch = ' '
    · subst hch
      rw [List.count_cons_self] at h
      have hrest := ih (c := c + 1) (by omega)
      rw [hpos]
      simp only [obtainEntries, scanLoop, if_true]
      rw [if_neg (by omega), List.dropWhile_cons_of_neg (by decide)]
      simp only [hrest]
      rfl
    · rw [List.count_cons_of_ne hch] at h
      have hrest := ih h
      rw [hpos] at hrest ⊢
      simp only [obtainEntries, scanLoop, if_neg hch] at hrest ⊢
      rw [List.dropWhile_cons_of_pos (by simpa using hch)]
      split at hrest
      · rw [← (List.cons.inj (Except.ok.inj hrest)).2]
      · next rest' hd =>
        cases he : obtainEntries (maxColumns - (c + 1)) rest' with
        | error e =>
          rw [he] at hrest
          cases hrest
        | ok es =>
          rw [he] at hrest
          rw [← (List.cons.inj (Except.ok.inj hrest)).2]
          rfl

/-- Before the conversion, everything below the number of columns has been written. -/
theorem scanColumns_safe {s : Text} (h : s.count ' ' < maxColumns) :
    Safe maxColumns (scanColumns maxColumns s).accesses ∧
      (scanColumns maxColumns s).c = s.count ' ' + 1 ∧
      ∀ x k, k < s.count ' ' + 1 → .write x k ∈ (scanColumns maxColumns s).accesses := by
  have hfits : Fits maxColumns 0 s := scanLoop_fits (by omega)
  have hcount := hfits.count
  rw [Nat.zero_add] at hcount
  refine ⟨safe_of_writes fun a ha => ?_, congrArg (· + 1) hcount, fun x k hk => ?_⟩
  · rcases List.mem_cons.mp ha with rfl | ha
    · exact ⟨_, _, rfl, by omega⟩
    · rcases List.mem_append.mp ha with ha | ha
      · exact hfits.writes a ha
      · rw [List.mem_singleton.mp ha, hcount]
        exact ⟨_, _, rfl, h⟩
  · show _ ∈ .write .value 0 :: ((scanLoop maxColumns s 0).accesses ++
      [.write .length (scanLoop maxColumns s 0).c])
    cases x with
    | value =>
      by_cases h0 : k = 0
      · subst h0
        exact List.mem_cons_self
      · exact List.mem_cons_of_mem _ (List.mem_append_left _
          (hfits.value k (by omega) (by omega)))
    | length =>
      apply List.mem_cons_of_mem
      apply List.mem_append.mpr
      by_cases hlast : k = s.count ' '
      · right
        rw [hcount, hlast]
        exact List.mem_singleton_self _
      · exact Or.inl (hfits.length k (Nat.zero_le k) (by omega))

/-- Behind the loop, a length is written behind the array. -/
theorem scanColumns_break {s : Text} (hpos : 0 < maxColumns) (h : maxColumns ≤ s.count ' ') :
    .write .length maxColumns ∈ (scanColumns maxColumns s).accesses := by
  have hc := scanLoop_break (c := 0) hpos (by omega : maxColumns ≤ 0 + s.count ' ')
  show _ ∈ .write .value 0 :: ((scanLoop maxColumns s 0).accesses ++
    [.write .length (scanLoop maxColumns s 0).c])
  rw [hc]
  exact List.mem_cons_of_mem _ (List.mem_append_right _ (List.mem_singleton_self _))

/-! ## Reads -/

section
variable {writes : List (Access ColumnArray)} {value : List Text} {k : Nat}

theorem readEntry_reads (h : ∀ x, .write x k ∈ writes) : Reads writes (readEntry value k) :=
  .bind (.access (h .value)) fun _ => .bind (.access (h .length)) fun _ => .pure _

theorem readNumber_reads (h : ∀ x, .write x k ∈ writes) (base : Nat) (function bad : String) :
    Reads writes (readNumber value k base function bad) := by
  refine .bind (.access (h .value)) fun _ => ?_
  split
  · exact .lift _
  · refine .bind (.access (h .length)) fun _ => ?_
    split
    · exact .pure _
    · exact .lift _

theorem readEntryIf_reads {condition : Prop} [Decidable condition] {default : Text}
    (h : condition → ∀ x, .write x k ∈ writes) :
    Reads writes (readEntryIf condition value k default) :=
  .ite (fun hc => readEntry_reads (h hc)) fun _ => .pure _

variable {r : Columns}

theorem tokenisePing_reads (hc : r.c ≥ 7)
    (h : ∀ x k, k < r.c → k < 11 → .write x k ∈ writes) : Reads writes (tokenisePing r) := by
  have hw : ∀ k, k < 7 → ∀ x, .write x k ∈ writes := fun k hk x => h x k (by omega) (by omega)
  refine .bind (readNumber_reads (hw 3 (by omega)) _ _ _) fun _ => ?_
  refine .bind (readNumber_reads (hw 6 (by omega)) _ _ _) fun _ => ?_
  refine .bind (readEntry_reads (hw 0 (by omega))) fun _ => ?_
  refine .bind (readEntry_reads (hw 1 (by omega))) fun _ => ?_
  refine .bind (readEntry_reads (hw 2 (by omega))) fun _ => ?_
  refine .bind (readEntryIf_reads fun h8 x => h x 7 (by omega) (by omega)) fun _ => ?_
  refine .bind (readEntryIf_reads fun h9 x => h x 8 (by omega) (by omega)) fun _ => ?_
  refine .bind (readEntry_reads (hw 4 (by omega))) fun _ => ?_
  refine .bind (readEntry_reads (hw 5 (by omega))) fun _ => ?_
  exact .bind (readEntryIf_reads fun h10 x => h x 9 (by omega) (by omega)) fun _ => .pure _

theorem tokenisePingLine_reads (h : ∀ x k, k < r.c → k < 11 → .write x k ∈ writes) :
    Reads writes (tokenisePingLine r) :=
  .ite (fun hc => .mapError toDataError (tokenisePing_reads hc h)) fun _ => .lift _

theorem tokeniseHeader_reads (hc : r.c ≥ 9)
    (h : ∀ x k, k < r.c → k < 11 → .write x k ∈ writes) : Reads writes (tokeniseHeader r) := by
  have hw : ∀ k, k < 9 → ∀ x, .write x k ∈ writes := fun k hk x => h x k (by omega) (by omega)
  refine .bind (readNumber_reads (hw 3 (by omega)) _ _ _) fun _ => ?_
  refine .bind (readEntry_reads (hw 0 (by omega))) fun _ => ?_
  refine .bind (readEntry_reads (hw 1 (by omega))) fun _ => ?_
  refine .bind (readEntry_reads (hw 2 (by omega))) fun _ => ?_
  refine .bind (readEntry_reads (hw 4 (by omega))) fun _ => ?_
  refine .bind (readEntry_reads (hw 6 (by omega))) fun _ => ?_
  refine .bind (readEntryIf_reads fun h10 x => h x 9 (by omega) (by omega)) fun _ => ?_
  refine .bind (readEntryIf_reads fun h11 x => h x 10 (by omega) (by omega)) fun _ => ?_
  refine .bind (readEntry_reads (hw 5 (by omega))) fun _ => ?_
  refine .bind (readEntry_reads (hw 7 (by omega))) fun _ => ?_
  exact .bind (readEntry_reads (hw 8 (by omega))) fun _ => .pure _

theorem tokeniseHop_reads (hc : r.c ≥ 5) (timeStamp : Nat)
    (h : ∀ x k, k < r.c → k < 11 → .write x k ∈ writes) :
    Reads writes (tokeniseHop r timeStamp) := by
  have hw : ∀ k, k < 5 → ∀ x, .write x k ∈ writes := fun k hk x => h x k (by omega) (by omega)
  refine .bind (readNumber_reads (hw 2 (by omega)) _ _ _) fun _ => ?_
  refine .bind (readNumber_reads (hw 3 (by omega)) _ _ _) fun _ => ?_
  refine .bind (readEntry_reads (hw 1 (by omega))) fun _ => ?_
  refine .bind (readEntryIf_reads fun h6 x => h x 5 (by omega) (by omega)) fun _ => ?_
  exact .bind (readEntry_reads (hw 4 (by omega))) fun _ => .pure _

theorem tokeniseTracerouteLine_reads (timeStamp : Nat)
    (h : ∀ x k, k < r.c → k < 11 → .write x k ∈ writes) :
    Reads writes (tokeniseTracerouteLine r timeStamp) := by
  refine .ite (fun hc => ?_) fun _ => .lift _
  have hfirst : Reads writes (readFirst r.value) :=
    .bind (.access (h .value 0 hc (by omega))) fun _ => .pure _
  refine .bind hfirst fun _ => .ite (fun hheader => tokeniseHeader_reads hheader.2 h) fun _ => ?_
  exact .bind hfirst fun _ => .ite (fun hhop => tokeniseHop_reads hhop.2 timeStamp h) fun _ =>
    .lift _

theorem tokeniseEntry_reads (makeAddress : Text → Except Failure Unit) (traceroute : Bool)
    (h : ∀ x k, k < r.c → k < 6 → .write x k ∈ writes) :
    Reads writes (tokeniseEntry makeAddress traceroute r) := by
  refine .ite (fun _ => .pure _) fun hc => ?_
  have hw : ∀ k, k < 6 → ∀ x, .write x k ∈ writes := fun k hk x => h x k (by omega) hk
  refine .bind (readNumber_reads (hw 1 (by omega)) _ _ _) fun _ => ?_
  refine .bind (readEntry_reads (hw 2 (by omega))) fun _ => .bind (.lift _) fun _ => ?_
  refine .bind (readEntry_reads (hw 3 (by omega))) fun _ => .bind (.lift _) fun _ => ?_
  refine .bind (readNumber_reads (hw 4 (by omega)) _ _ _) fun _ => ?_
  exact .ite (fun _ => .bind (readNumber_reads (hw 5 (by omega)) _ _ _) fun _ => .pure _)
    fun _ => .pure _

end

/-! ## Safe accesses -/

/-- All writes within the arrays. -/
def allWrites (maxColumns : Nat) : List (Access ColumnArray) :=
  (List.range maxColumns).flatMap fun k => [.write .value k, .write .length k]

theorem mem_allWrites {x : ColumnArray} {k : Nat} (h : k < maxColumns) :
    .write x k ∈ allWrites maxColumns := by
  refine List.mem_flatMap.mpr ⟨k, List.mem_range.mpr h, ?_⟩
  cases x with
  | value => exact List.mem_cons_self
  | length => exact List.mem_cons_of_mem _ List.mem_cons_self

/-- A conversion that reads columns that there are is safe exactly if the line has no more columns
than the arrays. -/
theorem safe_then_iff {α : Type} {m : Columns → Tokens α} {s : Text} (hpos : 0 < maxColumns)
    (hm : ∀ r writes, (∀ x k, k < r.c → k < maxColumns → .write x k ∈ writes) →
      Reads writes (m r)) :
    Safe maxColumns ((scanColumns maxColumns s).then m) ↔ s.count ' ' < maxColumns := by
  constructor
  · intro hsafe
    by_contra hno
    have hin := scanColumns_break (s := s) hpos (by omega)
    obtain ⟨more, htrace, -⟩ := hm (scanColumns maxColumns s) (allWrites maxColumns)
      (fun x k _ hk => mem_allWrites hk) (scanColumns maxColumns s).accesses
    have hlt := hsafe.inBounds (.write .length maxColumns) (by
      unfold Columns.then
      rw [htrace]
      exact List.mem_append_left _ hin)
    exact Nat.lt_irrefl maxColumns hlt
  · intro h
    obtain ⟨hsafe, hc, hwritten⟩ := scanColumns_safe h
    exact Reads.safe hsafe (hm _ _ fun x k hk _ => hwritten x k (hc ▸ hk))

/-- **The tokenisers stay inside their arrays**, and read only what they have written, exactly if
the line has less spaces than there are elements. -/
theorem tokenisers_safe_iff (line : Text) (timeStamp : Nat)
    (makeAddress : Text → Except Failure Unit) (traceroute : Bool) :
    (Safe 11 (pingAccesses line) ↔ separators line < 11) ∧
      (Safe 11 (tracerouteAccesses line timeStamp) ↔ separators line < 11) ∧
      (Safe 6 (entryAccesses makeAddress traceroute line) ↔ separators line < 6) :=
  ⟨safe_then_iff (by decide) fun _ _ h => tokenisePingLine_reads h,
    safe_then_iff (by decide) fun _ _ h => tokeniseTracerouteLine_reads timeStamp h,
    safe_then_iff (by decide) fun _ _ h => tokeniseEntry_reads makeAddress traceroute h⟩

/-- The columns of a version 2 line for Ping. -/
def pingTwoColumns : List Text :=
  ["#Pi".toList, ['0'], "10.0.0.1".toList, "10.0.0.2".toList, "17a".toList, ['0'], ['0'],
    "56".toList, "56".toList, "4d2".toList, ['0'], ['0'], "255".toList, ['0'], ['0'], ['0'], ['0'],
    ['1'], ['0'], ['0']]

/-- A length is written behind the arrays, for a line of version 2. -/
theorem version_two_line_overflows :
    .write .length 11 ∈ pingAccesses (spaced pingTwoColumns) ∧
      .write .length 6 ∈ entryAccesses (fun _ => .ok ()) false (spaced pingTwoColumns) := by
  decide +kernel

/-! ## Results -/

section
variable {value : List Text} {k : Nat}

theorem readEntry_yields : Yields (readEntry value k) (.ok (entry value k)) := fun _ => rfl

theorem readNumber_yields (value : List Text) (k base : Nat) (function bad : String) :
    Yields (readNumber value k base function bad) (entryNumber value k base function bad) := by
  unfold entryNumber
  refine .bind_ok (.access _) ?_
  cases Numeral.scan base (column value k) with
  | error _ => exact .lift _
  | ok r => exact .bind_ok (.access _) (.ite (.pure _) (.lift _))

theorem readEntryIf_yields {condition : Prop} [Decidable condition] {default : Text} :
    Yields (readEntryIf condition value k default)
      (.ok (if condition then entry value k else default)) := by
  unfold readEntryIf
  by_cases hc : condition
  · rw [if_pos hc, if_pos hc]
    exact readEntry_yields
  · rw [if_neg hc, if_neg hc]
    exact .pure _

theorem readFirst_yields : Yields (readFirst value) (.ok (column value 0).head?) := fun _ => rfl

end

theorem obtainEntries_scanColumns {s : Text} (h : s.count ' ' < maxColumns) :
    obtainEntries maxColumns s = .ok (scanColumns maxColumns s).value := by
  have hvalue : obtainEntries (maxColumns - 0) s = .ok (s :: (scanLoop maxColumns s 0).value) :=
    scanLoop_value (by omega)
  exact hvalue

/-- A column for each begin. -/
theorem scanLoop_length {s : Text} {c : Nat} (h : c + s.count ' ' < maxColumns) :
    (scanLoop maxColumns s c).c = c + (scanLoop maxColumns s c).value.length := by
  induction s generalizing c with
  | nil => rfl
  | cons ch rest ih =>
    simp only [scanLoop]
    by_cases hch : ch = ' '
    · subst hch
      rw [List.count_cons_self] at h
      have hrest := ih (c := c + 1) (by omega)
      rw [if_pos rfl, if_neg (by omega), List.length_cons]
      show (scanLoop maxColumns rest (c + 1)).c = _
      omega
    · rw [List.count_cons_of_ne hch] at h
      rw [if_neg hch]
      exact ih h

theorem scanColumns_length {s : Text} (h : s.count ' ' < maxColumns) :
    (scanColumns maxColumns s).c = (scanColumns maxColumns s).value.length := by
  have hlength : (scanLoop maxColumns s 0).c = 0 + (scanLoop maxColumns s 0).value.length :=
    scanLoop_length (by omega)
  rw [Nat.zero_add] at hlength
  exact congrArg (· + 1) hlength

theorem tokenisePing_yields {r : Columns} (hlength : r.c = r.value.length) :
    Yields (tokenisePing r) (match entryNumber r.value 3 16 "stoull" "Bad time stamp" with
      | .error e => .error e
      | .ok timeStamp =>
        match entryNumber r.value 6 10 "stoull" "Bad RTT value" with
        | .error e => .error e
        | .ok rtt => .ok (spaced (oldPingColumns r.value (1000 * timeStamp % 2 ^ 64)
            (1000 * rtt % 2 ^ 64)))) := by
  have hstamp := readNumber_yields r.value 3 16 "stoull" "Bad time stamp"
  have hrtt := readNumber_yields r.value 6 10 "stoull" "Bad RTT value"
  unfold tokenisePing
  rw [hlength]
  cases hnumber : entryNumber r.value 3 16 "stoull" "Bad time stamp" with
  | error e =>
    rw [hnumber] at hstamp
    exact .bind_error _ hstamp
  | ok timeStamp =>
    rw [hnumber] at hstamp
    refine .bind_ok hstamp ?_
    show Yields _ (match entryNumber r.value 6 10 "stoull" "Bad RTT value" with
      | .error e => .error e
      | .ok rtt => .ok _)
    cases hvalue : entryNumber r.value 6 10 "stoull" "Bad RTT value" with
    | error e =>
      rw [hvalue] at hrtt
      exact .bind_error _ hrtt
    | ok rtt =>
      rw [hvalue] at hrtt
      refine .bind_ok hrtt ?_
      refine .bind_ok readEntry_yields (.bind_ok readEntry_yields (.bind_ok readEntry_yields ?_))
      refine .bind_ok readEntryIf_yields (.bind_ok readEntryIf_yields ?_)
      refine .bind_ok readEntry_yields (.bind_ok readEntry_yields ?_)
      exact .bind_ok readEntryIf_yields (.pure _)

theorem tokeniseHeader_yields {r : Columns} (hlength : r.c = r.value.length) :
    Yields (tokeniseHeader r) (match entryNumber r.value 3 16 "stoull" "Bad time stamp" with
      | .error e => .error e
      | .ok number => .ok (spaced (oldHeaderColumns r.value (1000 * number % 2 ^ 64)),
          1000 * number % 2 ^ 64)) := by
  have hstamp := readNumber_yields r.value 3 16 "stoull" "Bad time stamp"
  unfold tokeniseHeader
  rw [hlength]
  cases hnumber : entryNumber r.value 3 16 "stoull" "Bad time stamp" with
  | error e =>
    rw [hnumber] at hstamp
    exact .bind_error _ hstamp
  | ok number =>
    rw [hnumber] at hstamp
    refine .bind_ok hstamp ?_
    refine .bind_ok readEntry_yields (.bind_ok readEntry_yields (.bind_ok readEntry_yields ?_))
    refine .bind_ok readEntry_yields (.bind_ok readEntry_yields ?_)
    refine .bind_ok readEntryIf_yields (.bind_ok readEntryIf_yields ?_)
    refine .bind_ok readEntry_yields (.bind_ok readEntry_yields ?_)
    exact .bind_ok readEntry_yields (.pure _)

theorem tokeniseHop_yields {r : Columns} (hlength : r.c = r.value.length) (timeStamp : Nat) :
    Yields (tokeniseHop r timeStamp) (match entryNumber r.value 2 16 "stoul" "Bad status value" with
      | .error e => .error e
      | .ok status =>
        match entryNumber r.value 3 10 "stoull" "Bad RTT value" with
        | .error e => .error e
        | .ok rtt =>
          .ok (spaced (oldHopColumns r.value timeStamp (status % 2 ^ 32) (1000 * rtt % 2 ^ 64)),
            timeStamp)) := by
  have hstatus := readNumber_yields r.value 2 16 "stoul" "Bad status value"
  have hrtt := readNumber_yields r.value 3 10 "stoull" "Bad RTT value"
  unfold tokeniseHop
  rw [hlength]
  cases hnumber : entryNumber r.value 2 16 "stoul" "Bad status value" with
  | error e =>
    rw [hnumber] at hstatus
    exact .bind_error _ hstatus
  | ok status =>
    rw [hnumber] at hstatus
    refine .bind_ok hstatus ?_
    show Yields _ (match entryNumber r.value 3 10 "stoull" "Bad RTT value" with
      | .error e => .error e
      | .ok rtt => .ok _)
    cases hvalue : entryNumber r.value 3 10 "stoull" "Bad RTT value" with
    | error e =>
      rw [hvalue] at hrtt
      exact .bind_error _ hrtt
    | ok rtt =>
      rw [hvalue] at hrtt
      refine .bind_ok hrtt (.bind_ok readEntry_yields (.bind_ok readEntryIf_yields ?_))
      exact .bind_ok readEntry_yields (.pure _)

/-- **The conversion of a Ping line**, for a line that stays within the arrays. -/
theorem tokenisePingLine_yields {line : Text} (h : separators line < 11) :
    Yields (tokenisePingLine (scanColumns 11 (cString line))) (convertOldPingLine line) := by
  have hlength := scanColumns_length h
  unfold convertOldPingLine
  rw [obtainEntries_scanColumns h]
  generalize scanColumns 11 (cString line) = r at hlength ⊢
  show Yields (tokenisePingLine r) (if r.value.length ≥ 7 then _ else _)
  unfold tokenisePingLine
  rw [← hlength]
  refine .ite ?_ (.lift _)
  have hping := (tokenisePing_yields hlength).mapError toDataError
  cases hnumber : entryNumber r.value 3 16 "stoull" "Bad time stamp" with
  | error e =>
    rw [hnumber] at hping
    cases e <;> exact hping
  | ok timeStamp =>
    cases hvalue : entryNumber r.value 6 10 "stoull" "Bad RTT value" with
    | error e =>
      simp only [hnumber, hvalue] at hping
      cases e <;> exact hping
    | ok rtt =>
      simp only [hnumber, hvalue] at hping
      exact hping

/-- **The conversion of a Traceroute line**, for a line that stays within the arrays. -/
theorem tokeniseTracerouteLine_yields {line : Text} (timeStamp : Nat)
    (h : separators line < 11) :
    Yields (tokeniseTracerouteLine (scanColumns 11 (cString line)) timeStamp)
      (convertOldTracerouteLine line timeStamp) := by
  have hlength := scanColumns_length h
  have hpos : (scanColumns 11 (cString line)).c > 0 := Nat.succ_pos _
  unfold convertOldTracerouteLine
  rw [obtainEntries_scanColumns h]
  generalize scanColumns 11 (cString line) = r at hlength hpos ⊢
  unfold tokeniseTracerouteLine
  rw [if_pos hpos]
  refine .bind_ok readFirst_yields ?_
  simp only [← hlength]
  refine .ite (tokeniseHeader_yields hlength) (.bind_ok readFirst_yields ?_)
  exact .ite (tokeniseHop_yields hlength timeStamp) (.lift _)

end HiPerConTracer.Results
