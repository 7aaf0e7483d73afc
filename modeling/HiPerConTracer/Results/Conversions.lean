import HiPerConTracer.Lib.Run
import HiPerConTracer.Results.Columns

/-!
# Lines of version 1 (`conversions.cc`)

`convertOldPingLine` and `convertOldTracerouteLine` make a line of version 2 of one of version 1.
-/

namespace HiPerConTracer.Results

/-- Where the columns of a line begin, each with the rest of the line.  The line ends at a null
character.  With more than `maxColumns` columns, the loop ends with a write behind the arrays. -/
def obtainEntries : Nat → Text → Except Failure (List Text)
  | 0, _ => .error .outOfBounds
  | maxColumns + 1, s =>
    match s.dropWhile (· ≠ ' ') with
    | [] => .ok [s]
    | _ :: rest => (obtainEntries maxColumns rest).map (s :: ·)

/-- The line as `linestr`. -/
def cString (line : Text) : Text := line.takeWhile (· ≠ '\x00')

/-- `std::string(value[k], length[k])`. -/
def entry (value : List Text) (k : Nat) : Text := (column value k).takeWhile (· ≠ ' ')

/-- `std::stoull` of `value[k]`, which has to end with the column. -/
def entryNumber (value : List Text) (k base : Nat) (function bad : String) : Except Failure Nat :=
  match Numeral.scan base (column value k) with
  | .error _ => .error (.exception function)
  | .ok (number, index) =>
    if index = (entry value k).length then .ok number else .error (.dataError bad)

/-- Columns with a space between them. -/
def spaced (columns : List Text) : Text := [' '].intercalate columns

/-- The columns of a Ping line of version 2. -/
def oldPingColumns (value : List Text) (timeStamp rtt : Nat) : List Text :=
  let c := value.length
  [entry value 0 ++ ['i'],
    ['0'],
    entry value 1,
    entry value 2,
    Numeral.text 16 timeStamp,
    ['0'],
    if c ≥ 8 then entry value 7 else ['0'],
    if c ≥ 9 then entry value 8 else ['0'],
    ['0'],
    entry value 4,
    ['0'], ['0'],
    entry value 5,
    if c ≥ 10 then entry value 9 else "00000000".toList,
    ['-', '1'], ['-', '1'], ['-', '1'],
    Numeral.text 10 rtt, ['-', '1'], ['-', '1']]

def convertOldPingLine (line : Text) : Except Failure Text :=
  match obtainEntries 11 (cString line) with
  | .error e => .error e
  | .ok value =>
    if value.length ≥ 7 then
      -- any exception becomes a data error
      match entryNumber value 3 16 "stoull" "Bad time stamp" with
      | .error (.exception what) => .error (.dataError what)
      | .error e => .error e
      | .ok timeStamp =>
        match entryNumber value 6 10 "stoull" "Bad RTT value" with
        | .error (.exception what) => .error (.dataError what)
        | .error e => .error e
        | .ok rtt =>
          .ok (spaced (oldPingColumns value (1000 * timeStamp % 2 ^ 64) (1000 * rtt % 2 ^ 64)))
    else .error (.dataError "Unexpected number of columns")

/-- The columns of a header line of version 2. -/
def oldHeaderColumns (value : List Text) (timeStamp : Nat) : List Text :=
  let c := value.length
  [entry value 0 ++ ['i'],
    ['0'],
    entry value 1,
    entry value 2,
    Numeral.text 16 timeStamp,
    entry value 4,
    entry value 6,
    if c ≥ 10 then entry value 9 else "00000000".toList,
    if c ≥ 11 then entry value 10 else ['0'],
    entry value 5,
    ['0'], ['0'],
    entry value 7,
    entry value 8]

/-- The columns of a hop line of version 2. -/
def oldHopColumns (value : List Text) (timeStamp status rtt : Nat) : List Text :=
  let c := value.length
  ['\t' :: Numeral.text 16 timeStamp,
    entry value 1,
    ['0'],
    Numeral.text 10 status,
    if c ≥ 6 then entry value 5 else "00000000".toList,
    ['-', '1'], ['-', '1'], ['-', '1'],
    Numeral.text 10 rtt, ['-', '1'], ['-', '1'],
    entry value 4]

/-- `convertOldTracerouteLine`; the time stamp of a header is kept for its hops. -/
def convertOldTracerouteLine (line : Text) (timeStamp : Nat) : Except Failure (Text × Nat) :=
  match obtainEntries 11 (cString line) with
  | .error e => .error e
  | .ok value =>
    if (column value 0).head? = some '#' ∧ value.length ≥ 9 then
      match entryNumber value 3 16 "stoull" "Bad time stamp" with
      | .error e => .error e
      | .ok number =>
        let timeStamp := 1000 * number % 2 ^ 64
        .ok (spaced (oldHeaderColumns value timeStamp), timeStamp)
    else if (column value 0).head? = some '\t' ∧ value.length ≥ 5 then
      match entryNumber value 2 16 "stoul" "Bad status value" with
      | .error e => .error e
      | .ok status =>
        match entryNumber value 3 10 "stoull" "Bad RTT value" with
        | .error e => .error e
        | .ok rtt =>
          .ok (spaced (oldHopColumns value timeStamp (status % 2 ^ 32) (1000 * rtt % 2 ^ 64)),
            timeStamp)
    else .error (.dataError "Unexpected number of columns")

/-! ## Accepted lines -/

theorem obtainEntries_head {k : Nat} {s : Text} {es : List Text} (h : obtainEntries k s = .ok es) :
    column es 0 = s := by
  cases k with
  | zero => cases h
  | succ k =>
    unfold obtainEntries at h
    split at h
    · cases h
      rfl
    · obtain ⟨es', -, rfl⟩ := Run.map_ok h
      rfl

/-- What has been accepted for conversion. -/
theorem convertOldTracerouteLine_ok {line converted : Text} {timeStamp timeStamp' : Nat}
    (h : convertOldTracerouteLine line timeStamp = .ok (converted, timeStamp')) :
    ∃ value, obtainEntries 11 (cString line) = .ok value ∧
      ((column value 0).head? = some '#' ∧ 9 ≤ value.length ∧
          converted = spaced (oldHeaderColumns value timeStamp') ∧
          (∀ time, convertOldTracerouteLine line time = .ok (converted, timeStamp')) ∨
        (column value 0).head? = some '\t' ∧ timeStamp' = timeStamp ∧
          ∃ status rtt, converted = spaced (oldHopColumns value timeStamp status rtt)) := by
  cases hvalue : obtainEntries 11 (cString line) with
  | error e =>
    unfold convertOldTracerouteLine at h
    rw [hvalue] at h
    cases h
  | ok value =>
    refine ⟨value, rfl, ?_⟩
    by_cases hheader : (column value 0).head? = some '#' ∧ value.length ≥ 9
    · cases hnumber : entryNumber value 3 16 "stoull" "Bad time stamp" with
      | error e =>
        simp only [convertOldTracerouteLine, hvalue, if_pos hheader, hnumber] at h
        cases h
      | ok number =>
        have hconvert : ∀ time, convertOldTracerouteLine line time =
            .ok (spaced (oldHeaderColumns value (1000 * number % 2 ^ 64)),
              1000 * number % 2 ^ 64) := by
          intro time
          simp only [convertOldTracerouteLine, hvalue, if_pos hheader, hnumber]
        rw [hconvert] at h
        cases h
        exact Or.inl ⟨hheader.1, hheader.2, rfl, hconvert⟩
    · right
      unfold convertOldTracerouteLine at h
      rw [hvalue] at h
      simp only [if_neg hheader] at h
      split at h
      · next hhop =>
        split at h
        · cases h
        · split at h
          · cases h
          · cases h
            exact ⟨hhop.1, rfl, _, _, rfl⟩
      · cases h

theorem line_head {line : Text} {value : List Text} {c : Char}
    (hvalue : obtainEntries 11 (cString line) = .ok value)
    (hc : (column value 0).head? = some c) : line.head? = some c := by
  rw [obtainEntries_head hvalue] at hc
  unfold cString at hc
  cases line with
  | nil => cases hc
  | cons d rest =>
    by_cases hd : d = '\x00'
    · rw [List.takeWhile_cons_of_neg (by simpa using hd)] at hc
      cases hc
    · rw [List.takeWhile_cons_of_pos (by simpa using hd)] at hc
      exact hc

end HiPerConTracer.Results
