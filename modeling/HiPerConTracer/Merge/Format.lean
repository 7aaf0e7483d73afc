import HiPerConTracer.Results.Conversions

/-!
# The format of results files (`hpct-results.cc`)

`checkFormat` looks at the first line with a `#`.  In the first file, the line says what type all
files have, and the names of the columns are written; in the tasks, the type of the line has to be the
same, and the line says which version the file has.  An accepted first line does both:

    Accepts type version line → the line of the first file sets the type         (Accepts.establishes)
    Accepts type version line → the tasks accept a line of their type            (Accepts.checks)
-/

namespace HiPerConTracer.Merge
open Results (Text spaced)

inductive InputType where
  | unknown
  | traceroute
  | ping
  | jitter
deriving DecidableEq, Repr

structure InputFormat where
  type : InputType
  string : Text
deriving DecidableEq, Repr

/-- The character of a type, which is the second one of its lines. -/
def InputType.letter : InputType → Char
  | unknown => '\x00'
  | traceroute => 'T'
  | ping => 'P'
  | jitter => 'J'

/-! ## Columns -/

def countColumns (string : Text) : Nat := 1 + string.count ' '

/-- The string with separators, and its number of columns. -/
def applySeparator (string : Text) (separator : Char) : Text × Nat :=
  (string.map fun c => if c = ' ' then separator else c, 1 + string.count ' ')

def pingColumnNames : Text :=
  spaced ([
    "Ping", "MeasurementID", "SourceIP", "DestinationIP", "Timestamp", "BurstSeq",
    "TrafficClass", "PacketSize", "ResponseSize", "Checksum", "SourcePort", "DestinationPort",
    "Status", "TimeSource", "Delay.AppSend", "Delay.Queuing", "Delay.AppReceive", "RTT.App",
    "RTT.SW", "RTT.HW"].map String.toList)

def tracerouteColumnNames : Text :=
  spaced ([
    "Traceroute", "MeasurementID", "SourceIP", "DestinationIP", "Timestamp", "RoundNumber",
    "TotalHops", "TrafficClass", "PacketSize", "Checksum", "SourcePort", "DestinationPort",
    "StatusFlags", "PathHash", "TAB", "SendTimestamp", "HopNumber", "ResponseSize", "Status",
    "TimeSource", "Delay.AppSend", "Delay.Queuing", "Delay.AppReceive", "RTT.App", "RTT.SW",
    "RTT.HW", "HopIP"].map String.toList)

def jitterColumnNames : Text :=
  spaced ([
    "Jitter", "MeasurementID", "SourceIP", "DestinationIP", "Timestamp", "BurstSeq",
    "TrafficClass", "PacketSize", "Checksum", "SourcePort", "DestinationPort", "Status",
    "TimeSource", "JitterType", "Packets.AppSend", "MeanDelay.AppSend", "Jitter.AppSend",
    "Packets.Queuing", "MeanDelay.Queuing", "Jitter.Queuing", "Packets.AppReceive",
    "MeanDelay.AppReceive", "Jitter.AppReceive", "Packets.App", "MeanRTT.App", "Jitter.App",
    "Packets.SW", "MeanRTT.SW", "Jitter.SW", "Packets.HW", "MeanRTT.HW",
    "Jitter.HW"].map String.toList)

def columnNames : InputType → Option Text
  | .unknown => none
  | .traceroute => some tracerouteColumnNames
  | .ping => some pingColumnNames
  | .jitter => some jitterColumnNames

/-- The number of columns that each row has to have. -/
def InputType.columns (type : InputType) : Nat := ((columnNames type).map countColumns).getD 0

/-! ## Identification -/

/-- `atoi`, for a number in the range of `int`; beyond, its behaviour is undefined. -/
def atoi (s : Text) : Int :=
  let digits := s.dropWhile Numeral.isSpace
  let (negative, signLength) := Numeral.sign digits
  let number := Numeral.value 10 ((digits.drop signLength).takeWhile (Numeral.isDigitOf 10))
  if negative then -number else number

/-- The format and the version that a line `#? HPCT ...` gives. -/
def getFormatIdentifier (line : Text) : Option (InputFormat × Nat) :=
  if line.take 8 = "#? HPCT ".toList then
    match Separated.words ' ' line with
    | _ :: _ :: name :: number :: _ =>
      let version := (atoi number % 2 ^ 32).toNat
      if name = "Ping".toList then some (⟨.ping, ['#', 'P']⟩, version)
      else if name = "Traceroute".toList then some (⟨.traceroute, ['#', 'T']⟩, version)
      else if name = "Jitter".toList then some (⟨.jitter, ['#', 'J']⟩, version)
      else none
    | _ => none
  else none

/-- The types that `line[1]` can be; with any other character, the type is not recognised. -/
def guessType (c : Char) : Option InputType :=
  if c = 'P' then some .ping
  else if c = 'T' then some .traceroute
  else if c = 'J' then some .jitter
  else none

/-- The format that a line of the first file sets; without an identifier, the version is still 0. -/
def identify (line : Text) : Option (InputFormat × Nat) :=
  if line.take 2 = ['#', '?'] then getFormatIdentifier line
  else (guessType (line.getD 1 '\x00')).map fun type => (⟨type, line.take 3⟩, 0)

/-- The version of a file without an identifier, from its first line. -/
def guessVersion (type : InputType) (line : Text) : Nat :=
  match type with
  | .ping =>
    if line.getD 2 '\x00' ≠ ' ' then
      if countColumns line ≥ 20 then 2 else 0
    else if countColumns line ≥ 7 then 1 else 0
  | .traceroute =>
    if line.getD 2 '\x00' ≠ ' ' then
      if countColumns line ≥ 12 then 2 else 0
    else if countColumns line ≥ 11 then 1 else 0
  | .jitter => 2
  | .unknown => 0

/-- What `checkFormat` sets. -/
structure Checked where
  format : InputFormat
  version : Nat
  columns : Nat
  /-- The column names to be written, if none have been. -/
  names : Option Text
deriving DecidableEq, Repr

/-- The type of a line, and the version if the line gives it. -/
def checkType (format : InputFormat) (columns : Nat) (line : Text) (separator : Char) :
    Option Checked :=
  if format.type = .unknown then
    match identify line with
    | none => none
    | some (inputFormat, version) =>
      match columnNames inputFormat.type with
      | none => none
      | some names =>
        some ⟨inputFormat, version, (applySeparator names separator).2,
          some (applySeparator names separator).1⟩
  else if line.take 2 = ['#', '?'] then
    match getFormatIdentifier line with
    | none => none
    | some (inputFormat, version) =>
      if inputFormat.type ≠ format.type then none else some ⟨format, version, columns, none⟩
  else if format.string.take 2 ≠ line.take 2 then none
  else some ⟨format, 0, columns, none⟩

/-- The version of the file; it is guessed if the line does not give it. -/
def checkVersion (line : Text) (checked : Checked) : Option Checked :=
  let version :=
    if checked.version = 0 then guessVersion checked.format.type line else checked.version
  if version = 0 then none else some { checked with version := version }

def checkFormat (format : InputFormat) (columns : Nat) (line : Text) (separator : Char) :
    Option Checked :=
  if line.length < 3 then none
  else
    match checkType format columns line separator with
    | none => none
    | some checked => checkVersion line checked

/-! ## First lines -/

/-- The version that a line of the type gives, 0 if it is only a row. -/
def givenVersion (type : InputType) (line : Text) : Option Nat :=
  if line.take 2 = ['#', '?'] then
    match getFormatIdentifier line with
    | none => none
    | some (format, version) => if format.type = type then some version else none
  else if line.take 2 = ['#', type.letter] then some 0
  else none

/-- The version that is found with the line. -/
def lineVersion (type : InputType) (line : Text) : Nat :=
  match givenVersion type line with
  | none => 0
  | some v => if v = 0 then guessVersion type line else v

/-- A first line of a file with the type and version: an identification, or the first row. -/
structure Accepts (type : InputType) (version : Nat) (line : Text) : Prop where
  known : type ≠ .unknown
  length : 3 ≤ line.length
  version_eq : lineVersion type line = version
  version_ne_zero : version ≠ 0

instance (type : InputType) (version : Nat) (line : Text) : Decidable (Accepts type version line) :=
  decidable_of_iff
    (type ≠ .unknown ∧ 3 ≤ line.length ∧ lineVersion type line = version ∧ version ≠ 0)
    ⟨fun ⟨known, length, version_eq, version_ne_zero⟩ =>
      ⟨known, length, version_eq, version_ne_zero⟩,
      fun h => ⟨h.known, h.length, h.version_eq, h.version_ne_zero⟩⟩

/-- The format has been set to the type. -/
structure InputFormat.Is (format : InputFormat) (type : InputType) : Prop where
  type_eq : format.type = type
  string_eq : format.string.take 2 = ['#', type.letter]

theorem getFormatIdentifier_is {line : Text} {format : InputFormat} {version : Nat}
    (h : getFormatIdentifier line = some (format, version)) : format.Is format.type := by
  unfold getFormatIdentifier at h
  split at h
  · split at h
    · dsimp only at h
      split at h
      · cases h
        exact ⟨rfl, rfl⟩
      · split at h
        · cases h
          exact ⟨rfl, rfl⟩
        · split at h
          · cases h
            exact ⟨rfl, rfl⟩
          · cases h
    · cases h
  · cases h

theorem guessType_letter {type : InputType} (h : type ≠ .unknown) :
    guessType type.letter = some type := by
  cases type with
  | unknown => exact absurd rfl h
  | traceroute => rfl
  | ping => rfl
  | jitter => rfl

theorem columnNames_known {type : InputType} (h : type ≠ .unknown) :
    ∃ names, columnNames type = some names := by
  cases type with
  | unknown => exact absurd rfl h
  | traceroute => exact ⟨_, rfl⟩
  | ping => exact ⟨_, rfl⟩
  | jitter => exact ⟨_, rfl⟩

namespace Accepts
variable {type : InputType} {version : Nat} {line : Text}

theorem given (h : Accepts type version line) : ∃ v, givenVersion type line = some v ∧
    version = if v = 0 then guessVersion type line else v := by
  have heq := h.version_eq
  unfold lineVersion at heq
  split at heq
  · exact absurd heq.symm h.version_ne_zero
  · next v hv => exact ⟨v, hv, heq.symm⟩

theorem head (h : Accepts type version line) : line.head? = some '#' := by
  obtain ⟨v, hgiven, -⟩ := h.given
  have hlength := h.length
  match line, hlength with
  | c :: d :: rest, _ =>
    unfold givenVersion at hgiven
    split at hgiven
    · next htake => exact congrArg List.head? htake
    · split at hgiven
      · next htake => exact congrArg List.head? htake
      · cases hgiven

theorem checkVersion_eq (h : Accepts type version line) {v : Nat}
    (hv : version = if v = 0 then guessVersion type line else v) {format : InputFormat}
    (hformat : format.type = type) (columns : Nat) (names : Option Text) :
    checkVersion line ⟨format, v, columns, names⟩ = some ⟨format, version, columns, names⟩ := by
  unfold checkVersion
  dsimp only
  rw [hformat, ← hv, if_neg h.version_ne_zero]

/-- A file of the type that has been set. -/
theorem checks (h : Accepts type version line) {format : InputFormat} (hformat : format.Is type)
    (columns : Nat) (separator : Char) :
    checkFormat format columns line separator = some ⟨format, version, columns, none⟩ := by
  obtain ⟨v, hgiven, hv⟩ := h.given
  have hlength := h.length
  have htype : checkType format columns line separator = some ⟨format, v, columns, none⟩ := by
    unfold checkType
    rw [hformat.type_eq, if_neg h.known]
    unfold givenVersion at hgiven
    split at hgiven
    · next hid =>
      rw [if_pos hid]
      cases hget : getFormatIdentifier line with
      | none =>
        rw [hget] at hgiven
        cases hgiven
      | some found =>
        obtain ⟨inputFormat, version'⟩ := found
        rw [hget] at hgiven
        dsimp only at hgiven ⊢
        split at hgiven
        · next heq =>
          cases hgiven
          rw [if_neg (not_not.mpr heq)]
        · cases hgiven
    · next hid =>
      rw [if_neg hid]
      split at hgiven
      · next htake =>
        cases hgiven
        rw [if_neg (not_not.mpr (hformat.string_eq.trans htake.symm))]
      · cases hgiven
  unfold checkFormat
  rw [if_neg (by omega), htype]
  exact h.checkVersion_eq hv hformat.type_eq columns none

/-- The first file, which sets the type. -/
theorem establishes (h : Accepts type version line) (format : InputFormat)
    (hformat : format.type = .unknown) (columns : Nat) (separator : Char) {names : Text}
    (hnames : columnNames type = some names) :
    ∃ inputFormat : InputFormat, inputFormat.Is type ∧
      checkFormat format columns line separator =
        some ⟨inputFormat, version, type.columns, some (applySeparator names separator).1⟩ := by
  obtain ⟨v, hgiven, hv⟩ := h.given
  have hlength := h.length
  have hidentify : ∃ inputFormat : InputFormat, inputFormat.Is type ∧
      identify line = some (inputFormat, v) := by
    unfold givenVersion at hgiven
    unfold identify
    split at hgiven
    · next hid =>
      rw [if_pos hid]
      cases hget : getFormatIdentifier line with
      | none =>
        rw [hget] at hgiven
        cases hgiven
      | some found =>
        obtain ⟨inputFormat, version'⟩ := found
        rw [hget] at hgiven
        dsimp only at hgiven
        split at hgiven
        · next heq =>
          cases hgiven
          rw [← heq]
          exact ⟨inputFormat, getFormatIdentifier_is hget, rfl⟩
        · cases hgiven
    · next hid =>
      rw [if_neg hid]
      split at hgiven
      · next htake =>
        cases hgiven
        have hsecond : line.getD 1 '\x00' = type.letter := by
          match line, hlength with
          | c :: d :: rest, _ =>
            obtain ⟨-, hd⟩ := List.cons.inj htake
            exact (List.cons.inj hd).1
        rw [hsecond, guessType_letter h.known]
        refine ⟨⟨type, line.take 3⟩, ⟨rfl, ?_⟩, rfl⟩
        show (line.take 3).take 2 = ['#', type.letter]
        rw [List.take_take]
        exact htake
      · cases hgiven
  obtain ⟨inputFormat, his, hidentify⟩ := hidentify
  have htype : checkType format columns line separator =
      some ⟨inputFormat, v, type.columns, some (applySeparator names separator).1⟩ := by
    unfold checkType
    rw [if_pos hformat, hidentify]
    dsimp only
    rw [his.type_eq, hnames]
    dsimp only
    unfold InputType.columns
    rw [hnames]
    rfl
  refine ⟨inputFormat, his, ?_⟩
  unfold checkFormat
  rw [if_neg (by omega), htype]
  exact h.checkVersion_eq hv his.type_eq _ _

end Accepts

end HiPerConTracer.Merge
