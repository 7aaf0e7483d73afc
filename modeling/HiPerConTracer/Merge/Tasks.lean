import HiPerConTracer.Lib.Pool
import HiPerConTracer.Lib.SortedSet
import HiPerConTracer.Merge.Format

/-!
# Merging results files (`hpct-results.cc`)

`dumpResultsFile` reads the lines of a file and writes the rows to the set, or to the output when the
results are unsorted.  `main` calls it for the first file to find the type, and then has a task for each
file in a thread pool.  A task works on a line of its own until it writes the row under the mutex, so
that a line is a step of its task.
-/

namespace HiPerConTracer.Merge
open Net
open Results (Text Failure cString entry entryNumber convertOldPingLine convertOldTracerouteLine)

/-! ## Entries -/

structure OutputEntry where
  measurementID : Nat
  sourceIP : Address
  destinationIP : Address
  timeStamp : Nat
  roundNumber : Nat
  seqNumber : Nat
  line : Text
deriving DecidableEq

namespace OutputEntry

/-- `operator<`. -/
def less (a b : OutputEntry) : Bool :=
  if a.timeStamp < b.timeStamp then true
  else if a.timeStamp = b.timeStamp then
    if a.measurementID < b.measurementID then true
    else if a.measurementID = b.measurementID then
      if a.sourceIP < b.sourceIP then true
      else if a.sourceIP = b.sourceIP then
        if a.destinationIP < b.destinationIP then true
        else if a.destinationIP = b.destinationIP then
          if a.roundNumber < b.roundNumber then true
          else if a.roundNumber = b.roundNumber then
            if a.seqNumber < b.seqNumber then true else false
          else false
        else false
      else false
    else false
  else false

/-- What `operator<` compares, in its order. -/
def key (e : OutputEntry) : ℕ ×ₗ ℕ ×ₗ Address ×ₗ Address ×ₗ ℕ ×ₗ ℕ :=
  toLex (e.timeStamp, toLex (e.measurementID, toLex (e.sourceIP, toLex (e.destinationIP,
    toLex (e.roundNumber, e.seqNumber)))))

/-- The comparison of one level. -/
theorem ite_lt_iff {α β : Type} [LinearOrder α] [LT β] {a a' : α} {b b' : β} {rest : Bool}
    (h : rest = true ↔ b < b') :
    (if a < a' then true else if a = a' then rest else false) = true ↔
      toLex (a, b) < toLex (a', b') := by
  rw [Prod.Lex.toLex_lt_toLex]
  by_cases hlt : a < a'
  · simp [hlt]
  · by_cases heq : a = a'
    · simp [heq, h]
    · simp [hlt, heq]

theorem less_compares : SortedSet.Compares less key := by
  intro a b
  unfold less key
  refine ite_lt_iff (ite_lt_iff (ite_lt_iff (ite_lt_iff (ite_lt_iff ?_))))
  by_cases h : a.seqNumber < b.seqNumber
  · simp [h]
  · simp [h]

end OutputEntry

/-! ## Lines -/

/-- The separator of the output, and `boost::asio::ip::make_address`. -/
structure Setup where
  separator : Char
  makeAddress : Text → Except String Address

/-- The local variables of `dumpResultsFile`; `oldTimeStamp` is written before it is used. -/
structure Variables where
  version : Nat
  newEntry : Option OutputEntry
  oldTimeStamp : Nat
deriving DecidableEq

def Variables.start : Variables := ⟨0, none, 0⟩

/-- What ends the reading of a file, with a message and the error counter. -/
inductive Fatal where
  | unexpectedSyntax
  /-- An exception. -/
  | unexpectedInput (what : Failure)
  | columns (seen expected : Nat)
  /-- "TAB line without corresponding header line". -/
  | noHeader
deriving DecidableEq

/-- The begins of the first columns, each with the rest of the line.  There is a write behind
`length[]` when there are more, which nothing reads. -/
def firstEntries : Nat → Text → List Text
  | 0, _ => []
  | maxColumns + 1, s =>
    match s.dropWhile (· ≠ ' ') with
    | [] => [s]
    | _ :: rest => s :: firstEntries maxColumns rest

def parseAddress (p : Setup) (value : Text) : Except Failure Address :=
  (p.makeAddress value).mapError .exception

/-- The entry of a line that begins with a `#`. -/
def headerEntry (p : Setup) (type : InputType) (line : Text) : Except Failure OutputEntry := do
  let value := firstEntries 6 (cString line)
  let measurementID ← entryNumber value 1 10 "stoul" "Bad measurement ID"
  let sourceIP ← parseAddress p (entry value 2)
  let destinationIP ← parseAddress p (entry value 3)
  let timeStamp ← entryNumber value 4 16 "stoull" "Bad time stamp"
  let roundNumber ←
    if type = .traceroute then entryNumber value 5 10 "stoul" "Bad round number" else .ok 0
  return {
    measurementID := measurementID % 2 ^ 32
    sourceIP := sourceIP
    destinationIP := destinationIP
    timeStamp := timeStamp
    roundNumber := roundNumber % 2 ^ 32
    seqNumber := 0
    line := line }

/-- Conversion from old versions. -/
def convert (type : InputType) (v : Variables) (line : Text) : Except Failure (Text × Nat) :=
  if v.version < 2 then
    match type with
    | .ping => (convertOldPingLine line).map fun line => (line, v.oldTimeStamp)
    | .traceroute => convertOldTracerouteLine line v.oldTimeStamp
    | .jitter => .ok (line, v.oldTimeStamp)
    | .unknown => .ok (line, v.oldTimeStamp)
  else .ok (line, v.oldTimeStamp)

/-- The row of an entry, which has to have all columns. -/
def finishRow (p : Setup) (columns : Nat) (e : OutputEntry) : Except Fatal OutputEntry :=
  let (line, seenColumns) := applySeparator e.line p.separator
  if seenColumns ≠ columns then .error (.columns seenColumns columns)
  else .ok { e with line := line }

/-- A line with a `#`, but not `#?`. -/
def readHeader (p : Setup) (type : InputType) (columns : Nat) (v : Variables) (line : Text) :
    Except Fatal (Variables × Option OutputEntry) :=
  match convert type v line with
  | .error what => .error (.unexpectedInput what)
  | .ok (line, oldTimeStamp) =>
    if (firstEntries 6 (cString line)).length < 6 then .error .unexpectedSyntax
    else
      match headerEntry p type line with
      | .error what => .error (.unexpectedInput what)
      | .ok newEntry =>
        if type ≠ .traceroute then
          match finishRow p columns newEntry with
          | .error e => .error e
          | .ok row => .ok (⟨v.version, none, oldTimeStamp⟩, some row)
        else .ok (⟨v.version, some newEntry, oldTimeStamp⟩, none)

/-- The row of a hop has the columns of its header in front. -/
def hopEntry (header : OutputEntry) (line : Text) : OutputEntry :=
  { header with
    line := header.line ++ " ~ ".toList ++
      (if line.getD 1 '\x00' ≠ ' ' then line.drop 1 else line.drop 2) }

/-- A line with a TAB. -/
def readHop (p : Setup) (columns : Nat) (v : Variables) (line : Text) :
    Except Fatal (Variables × Option OutputEntry) :=
  match convert .traceroute v line with
  | .error what => .error (.unexpectedInput what)
  | .ok (line, oldTimeStamp) =>
    match v.newEntry with
    | none => .error .noHeader
    | some newEntry =>
      let header := { newEntry with seqNumber := (newEntry.seqNumber + 1) % 2 ^ 32 }
      match finishRow p columns (hopEntry header line) with
      | .error e => .error e
      | .ok row => .ok (⟨v.version, some header, oldTimeStamp⟩, some row)

/-- A line, and the row to be written. -/
def readLine (p : Setup) (type : InputType) (columns : Nat) (v : Variables) (line : Text) :
    Except Fatal (Variables × Option OutputEntry) :=
  if line.length < 2 then .ok (v, none)
  else if line.head? = some '#' then
    if line.getD 1 '\x00' = '?' then .ok (v, none)
    else readHeader p type columns v line
  else if line.head? = some '\t' then
    if type = .traceroute then readHop p columns v line else .ok (v, none)
  else .error .unexpectedSyntax

/-! ## Files -/

/-- What the tasks share. -/
structure Common where
  outputSet : List OutputEntry
  /-- The lines that have been written. -/
  outputStream : List Text
  foundFormat : Bool
  lastTimeStamp : Nat
  errorCounter : Nat

namespace Common

def start : Common := ⟨[], [], false, 0, 0⟩

def failed (c : Common) : Common := { c with errorCounter := c.errorCounter + 1 }

def writeNames (c : Common) (names : Option Text) : Common :=
  match names with
  | none => c
  | some names =>
    if c.foundFormat = false then
      { c with outputStream := c.outputStream ++ [names], foundFormat := true }
    else c

/-- A row is added to the set, unless there is an equivalent one, or is written. -/
def write (sorted : Bool) (row : OutputEntry) (c : Common) : Common × Bool :=
  let c := { c with lastTimeStamp := max c.lastTimeStamp row.timeStamp }
  if sorted then
    match SortedSet.insert OutputEntry.less row c.outputSet with
    | none => (c.failed, false)
    | some outputSet => ({ c with outputSet := outputSet }, true)
  else ({ c with outputStream := c.outputStream ++ [row.line] }, true)

end Common

/-- The variables of the caller. -/
structure Reference where
  format : InputFormat
  columns : Nat

/-- How the loop goes on behind a line. -/
inductive Outcome where
  | next (r : Reference) (v : Variables)
  | returned (r : Reference) (success : Bool)

/-- A line behind the check of the format. -/
def readAndWrite (p : Setup) (sorted : Bool) (c : Common) (r : Reference) (v : Variables) (line : Text) :
    Common × Outcome :=
  match readLine p r.format.type r.columns v line with
  | .error _ => (c.failed, .returned r false)
  | .ok (v, none) => (c, .next r v)
  | .ok (v, some row) =>
    match c.write sorted row with
    | (c, false) => (c, .returned r false)
    | (c, true) => (c, .next r v)

def processLine (p : Setup) (sorted checkOnly : Bool) (c : Common) (r : Reference) (v : Variables)
    (line : Text) : Common × Outcome :=
  if 2 ≤ line.length ∧ line.head? = some '#' ∧ v.version = 0 then
    match checkFormat r.format r.columns line p.separator with
    | none => (c.failed, .returned r false)
    | some checked =>
      let c := c.writeNames checked.names
      let r := ⟨checked.format, checked.columns⟩
      if checkOnly then (c, .returned r true)
      else readAndWrite p sorted c r { v with version := checked.version } line
  else readAndWrite p sorted c r v line

/-- `dumpResultsFile`, as it is called for the first file. -/
def dumpResultsFile (p : Setup) (sorted checkOnly : Bool) (c : Common) (r : Reference) (v : Variables) :
    List Text → Common × Reference × Bool
  | [] => (c, r, true)
  | line :: lines =>
    match processLine p sorted checkOnly c r v line with
    | (c, .returned r success) => (c, r, success)
    | (c, .next r v) => dumpResultsFile p sorted checkOnly c r v lines

/-! ## Tasks -/

/-- A task with the lines that are left, and its own copies of the format and the columns. -/
structure Task where
  lines : List Text
  reference : Reference
  vars : Variables

def Task.start (r : Reference) (lines : List Text) : Task := ⟨lines, r, .start⟩

/-- The next line of a task; behind an error, there is none. -/
def Task.step (p : Setup) (sorted : Bool) (c : Common) (t : Task) : Common × Task :=
  match t.lines with
  | [] => (c, t)
  | line :: lines =>
    match processLine p sorted false c t.reference t.vars line with
    | (c, .returned r _) => (c, ⟨[], r, t.vars⟩)
    | (c, .next r v) => (c, ⟨lines, r, v⟩)

/-! ## Main program -/

/-- The tasks behind the check of the first file; none if the program has ended.  The files are in the
order of their names. -/
def postTasks (p : Setup) (sorted : Bool) (files : List (List Text)) : Option (Pool Common Task) :=
  match files with
  | [] => none
  | first :: _ =>
    match dumpResultsFile p sorted true .start ⟨⟨.unknown, []⟩, 0⟩ .start first with
    | (_, _, false) => none
    | (c, r, true) => some ⟨c, files.map (Task.start r)⟩

/-- What has been written when the program succeeds. -/
def printResults (sorted : Bool) (c : Common) : Option (List Text) :=
  if c.errorCounter > 0 then none
  else if sorted then some (c.outputStream ++ c.outputSet.map (·.line))
  else some c.outputStream

/-- The output with the tasks in the order of a schedule; none if the program fails. -/
def output (p : Setup) (sorted : Bool) (files : List (List Text)) (schedule : List Nat) :
    Option (List Text) :=
  match postTasks p sorted files with
  | none => none
  | some pool => printResults sorted (pool.run (Task.step p sorted) schedule).shared

/-- All tasks come to their end, as `threadPool.join()` has it. -/
def Joined (p : Setup) (sorted : Bool) (files : List (List Text)) (schedule : List Nat) : Prop :=
  ∀ pool ∈ postTasks p sorted files, ∀ t ∈ (pool.run (Task.step p sorted) schedule).tasks, t.lines = []

instance (p : Setup) (sorted : Bool) (files : List (List Text)) (schedule : List Nat) :
    Decidable (Joined p sorted files schedule) :=
  inferInstanceAs (Decidable (∀ pool ∈ postTasks p sorted files,
    ∀ t ∈ (pool.run (Task.step p sorted) schedule).tasks, t.lines = []))

end HiPerConTracer.Merge
