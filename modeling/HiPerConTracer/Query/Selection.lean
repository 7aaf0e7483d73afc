import HiPerConTracer.Query.Output
import HiPerConTracer.Tools.TimePoint

/-!
# The selection of measurements (`hpct-query.cc`)

`hpct-query` restricts a query to a time range and to a range of measurement IDs.  For an SQL database
`addSQLWhere` writes a WHERE clause, for a NoSQL database `addNoSQLFilter` writes a filter; a bound of
0 is no bound.  Both are meant to select

    fromTime ≤ time stamp < toTime    and    fromID ≤ measurement ID ≤ toID

and `selections_iff` says when they do: away from the upper measurement ID, which only the WHERE clause
includes, and for tables of version 1 away from the bounds that are no whole microseconds, and from those
that the texts of doubles move.
-/

namespace HiPerConTracer.Query
open Calendar
open Results (Text)

inductive TableVersion where
  | one
  | two
deriving DecidableEq, Repr

/-- The options `--from-time`, `--to-time`, `--from-measurement-id` and `--to-measurement-id`. -/
structure Bounds where
  fromTimeStamp : Nat
  toTimeStamp : Nat
  fromMeasurementID : Nat
  toMeasurementID : Nat
deriving DecidableEq, Repr

/-! ## Conditions -/

inductive Comparison where
  | ge
  | lt
  | le
deriving DecidableEq, Repr

/-- What a field is compared with. -/
inductive Operand where
  | number (n : Nat)
  /-- A time stamp in quotes. -/
  | quoted (nanoseconds : Nat)
deriving DecidableEq, Repr

structure Condition where
  field : String
  comparison : Comparison
  operand : Operand
deriving DecidableEq, Repr

/-- The conditions of a WHERE clause. -/
def sqlConditions (timeStampField : String) (b : Bounds) (timestampIsTimeStampType : Bool) :
    List Condition :=
  let operand (n : Nat) : Operand := if timestampIsTimeStampType then .quoted n else .number n
  (if 0 < b.fromTimeStamp then [⟨timeStampField, .ge, operand b.fromTimeStamp⟩] else []) ++
  (if 0 < b.toTimeStamp then [⟨timeStampField, .lt, operand b.toTimeStamp⟩] else []) ++
  (if 0 < b.fromMeasurementID then [⟨"MeasurementID", .ge, .number b.fromMeasurementID⟩] else []) ++
  (if 0 < b.toMeasurementID then [⟨"MeasurementID", .le, .number b.toMeasurementID⟩] else [])

/-- The conditions of a filter, `filterArray`. -/
def filterArray (timeStampField : String) (b : Bounds) : List Condition :=
  (if 0 < b.fromTimeStamp then [⟨timeStampField, .ge, .number b.fromTimeStamp⟩] else []) ++
  (if 0 < b.toTimeStamp then [⟨timeStampField, .lt, .number b.toTimeStamp⟩] else []) ++
  (if 0 < b.fromMeasurementID then [⟨"measurementID", .ge, .number b.fromMeasurementID⟩] else []) ++
  -- Here the WHERE clause has `<=`.
  (if 0 < b.toMeasurementID then [⟨"measurementID", .lt, .number b.toMeasurementID⟩] else [])

/-! ## The texts -/

def Comparison.sql : Comparison → String
  | ge => " >= "
  | lt => " < "
  | le => " <= "

def Comparison.noSQL : Comparison → String
  | ge => "$gte"
  | lt => "$lt"
  | le => "$lte"

/-- `nanosecondsToTimePoint`, from 64 bits without sign to 64 bits with one. -/
def nanosecondsToTimePoint (nanoseconds : Nat) : Int := (nanoseconds : Int).bmod (2 ^ 64)

/-- What stands in the quotes. -/
def quotedText (nanoseconds : Nat) : Text :=
  Tools.timePointToString (nanosecondsToTimePoint nanoseconds) 9 Tools.dateFormat

def Operand.text : Operand → String
  | number n => toString n
  | quoted n => "'" ++ String.ofList (quotedText n) ++ "'"

def Condition.sql (c : Condition) : String :=
  " (" ++ c.field ++ c.comparison.sql ++ c.operand.text ++ ")"

/-- The WHERE clause: `needsAnd` is set behind the first condition. -/
def addSQLWhere (timeStampField : String) (b : Bounds) (timestampIsTimeStampType : Bool) : String :=
  match sqlConditions timeStampField b timestampIsTimeStampType with
  | [] => ""
  | c :: cs =>
      cs.foldl (fun statement d => statement ++ " AND" ++ d.sql) (" WHERE" ++ c.sql)

def Condition.noSQL (c : Condition) : String :=
  "\"" ++ c.field ++ "\": \x7b \"" ++ c.comparison.noSQL ++ "\": " ++
    c.operand.text ++ " \x7d"

/-- The filters in an `$and`, the last of which has no comma. -/
def andText : List Condition → String
  | [] => ""
  | [c] => "\x7b " ++ c.noSQL ++ "\x7d "
  | c :: d :: cs => "\x7b " ++ c.noSQL ++ "\x7d, " ++ andText (d :: cs)

def addNoSQLFilter (timeStampField : String) (b : Bounds) : String :=
  match filterArray timeStampField b with
  | [] => ""
  | [c] => c.noSQL
  | cs => "\"$and\": [ " ++ andText cs ++ "]"

example : addSQLWhere "Timestamp" ⟨5, 0, 0, 7⟩ false =
    " WHERE (Timestamp >= 5) AND (MeasurementID <= 7)" := by decide

-- a whole microsecond, of which the double has a nanosecond more
example : addSQLWhere "TimeStamp" ⟨1700000000123456000, 0, 0, 0⟩ true =
    " WHERE (TimeStamp >= '2023-11-14 22:13:20.123456001')" := by decide +kernel

example : addNoSQLFilter "timestamp" ⟨5, 0, 0, 7⟩ =
    "\"$and\": [ \x7b \"timestamp\": \x7b \"$gte\": 5 \x7d\x7d, " ++
      "\x7b \"measurementID\": \x7b \"$lt\": 7 \x7d\x7d ]" := by decide

/-! ## The queries of `main` -/

def sqlTimeStampField : QueryType → TableVersion → String
  | _, .one => "TimeStamp"
  | .ping, .two => "SendTimestamp"
  | .traceroute, .two => "Timestamp"

def noSQLTimeStampField : QueryType → TableVersion → String
  | _, .one => "timestamp"
  | .ping, .two => "sendTimestamp"
  | .traceroute, .two => "timestamp"

/-- The bounds of a filter for version 1, whose time stamps are in microseconds. -/
def Bounds.microseconds (b : Bounds) : Bounds :=
  { b with fromTimeStamp := b.fromTimeStamp / 1000, toTimeStamp := b.toTimeStamp / 1000 }

def sqlQuery (q : QueryType) (v : TableVersion) (b : Bounds) : List Condition :=
  sqlConditions (sqlTimeStampField q v) b (v = .one)

def noSQLQuery (q : QueryType) (v : TableVersion) (b : Bounds) : List Condition :=
  match v with
  | .one => filterArray (noSQLTimeStampField q v) b.microseconds
  | .two => filterArray (noSQLTimeStampField q v) b

/-! ## What they select -/

/-- A stored measurement.  A table of version 1 has no measurement ID, and its time stamps are in
microseconds. -/
inductive Measurement where
  | one (microseconds : Nat)
  | two (nanoseconds measurementID : Nat)
deriving DecidableEq, Repr

namespace Measurement

def version : Measurement → TableVersion
  | one _ => .one
  | two _ _ => .two

def timeStamp : Measurement → Nat
  | one t => 1000 * t
  | two t _ => t

/-- For version 1 the queries give 0. -/
def measurementID : Measurement → Nat
  | one _ => 0
  | two _ id => id

/-- The columns of its row that conditions are about; a time stamp in nanoseconds. -/
def column (q : QueryType) (m : Measurement) (name : String) : Option Nat :=
  if name = sqlTimeStampField q m.version then some m.timeStamp
  else
    match m with
    | one _ => none
    | two _ id => if name = "MeasurementID" then some id else none

/-- The fields of its document that conditions are about. -/
def field (q : QueryType) (m : Measurement) (name : String) : Option Nat :=
  if name = noSQLTimeStampField q m.version then
    match m with
    | one t => some t
    | two t _ => some t
  else
    match m with
    | one _ => none
    | two _ id => if name = "measurementID" then some id else none

end Measurement

def Comparison.holds : Comparison → Int → Int → Prop
  | ge, v, bound => bound ≤ v
  | lt, v, bound => v < bound
  | le, v, bound => v ≤ bound

section Selection
/- The time stamp that a database reads from a text, in microseconds. -/
variable (read : Text → Int)

def Operand.value : Operand → Int
  | number n => n
  | quoted n => 1000 * read (quotedText n)

/-- A condition on what is not there holds of nothing. -/
def Condition.holds (values : String → Option Nat) (c : Condition) : Prop :=
  match values c.field with
  | none => False
  | some v => c.comparison.holds v (c.operand.value read)

def SelectedBySQL (q : QueryType) (b : Bounds) (m : Measurement) : Prop :=
  ∀ c ∈ sqlQuery q m.version b, c.holds read (m.column q)

def SelectedByNoSQL (q : QueryType) (b : Bounds) (m : Measurement) : Prop :=
  ∀ c ∈ noSQLQuery q m.version b, c.holds read (m.field q)

end Selection

/-- A database reads a date with a fraction of a second, and takes it to microseconds, down or up:
`round n d` is what it makes of `n / d` microseconds. -/
structure Reads (read : Text → Int) (round : Int → Nat → Int) : Prop where
  near : ∀ n d, 0 < d → n - d < round n d * d ∧ round n d * d < n + d
  date : ∀ (tm : DateTime) (digits : Text), 1000 ≤ tm.year → tm.year ≤ 9999 → digits ≠ [] →
    (∀ c ∈ digits, Numeral.isDigitOf 10 c = true) →
    read (Tools.putTime tm Tools.dateFormat ++ '.' :: digits) =
      round ((tm.timegm * 10 ^ digits.length + Numeral.value 10 digits) * 1000000) (10 ^ digits.length)

/-- The microsecond of a bound in quotes. -/
def boundMicrosecond (round : Int → Nat → Int) (nanoseconds : Nat) : Int :=
  let timePoint := nanosecondsToTimePoint nanoseconds
  let number := Tools.fractionNumber timePoint 9
  let places := (Numeral.padded 10 9 number).length
  round ((Tools.wholeSeconds timePoint * 10 ^ places + number) * 1000000) (10 ^ places)

theorem Reads.quotedText {read : Text → Int} {round : Int → Nat → Int} (h : Reads read round)
    (nanoseconds : Nat) : read (quotedText nanoseconds) = boundMicrosecond round nanoseconds := by
  have hseconds : -30000000000 ≤ Tools.wholeSeconds (nanosecondsToTimePoint nanoseconds) ∧
      Tools.wholeSeconds (nanosecondsToTimePoint nanoseconds) ≤ 30000000000 := by
    have hrange := Tools.natAbs_wholeSeconds_le (nanosecondsToTimePoint nanoseconds)
    have hlow := Int.le_bmod (x := nanoseconds) (m := 2 ^ 64) (by decide)
    have hhigh := Int.bmod_lt (x := nanoseconds) (m := 2 ^ 64) (by decide)
    unfold nanosecondsToTimePoint at hrange ⊢
    omega
  obtain ⟨hmin, hmax⟩ : 1000 ≤ (gmtime (Tools.wholeSeconds (nanosecondsToTimePoint nanoseconds))).year ∧
      (gmtime (Tools.wholeSeconds (nanosecondsToTimePoint nanoseconds))).year ≤ 9999 :=
    gmtime_year (by omega) (by omega)
  have hne : Numeral.padded 10 9 (Tools.fractionNumber (nanosecondsToTimePoint nanoseconds) 9) ≠ [] :=
    List.append_ne_nil_of_right_ne_nil _ (Numeral.text_ne_nil _)
  have hread := h.date (gmtime (Tools.wholeSeconds (nanosecondsToTimePoint nanoseconds))) _ hmin hmax
    hne (Numeral.isDigitOf_padded (by decide) (by decide) _ _)
  rw [timegm_gmtime (by omega), Numeral.value_padded (by decide) (by decide)] at hread
  exact hread

/-! ## What they are meant to select -/

/-- Between two bounds, where 0 is no bound. -/
def InTimeRange (fromTime toTime t : Nat) : Prop :=
  (0 < fromTime → fromTime ≤ t) ∧ (0 < toTime → t < toTime)

def InIDRange (fromID toID id : Nat) : Prop :=
  (0 < fromID → fromID ≤ id) ∧ (0 < toID → id ≤ toID)

instance (fromTime toTime t : Nat) : Decidable (InTimeRange fromTime toTime t) :=
  inferInstanceAs (Decidable (_ ∧ _))

instance (fromID toID id : Nat) : Decidable (InIDRange fromID toID id) :=
  inferInstanceAs (Decidable (_ ∧ _))

def InSelection (b : Bounds) (m : Measurement) : Prop :=
  InTimeRange b.fromTimeStamp b.toTimeStamp m.timeStamp ∧
    InIDRange b.fromMeasurementID b.toMeasurementID m.measurementID

instance (b : Bounds) (m : Measurement) : Decidable (InSelection b m) :=
  inferInstanceAs (Decidable (_ ∧ _))

/-! ## What they select, by version -/

theorem forall_mem_guarded {α : Type} {P : α → Prop} (p : Prop) [Decidable p] (x : α) :
    (∀ c ∈ (if p then [x] else []), P c) ↔ (p → P x) := by
  by_cases h : p <;> simp [h]

section Selected
variable (read : Text → Int) (q : QueryType) (b : Bounds)

theorem selectedBySQL_two (t id : Nat) :
    SelectedBySQL read q b (.two t id) ↔ InSelection b (.two t id) := by
  have ht : (Measurement.two t id).column q (sqlTimeStampField q .two) = some t := by
    simp [Measurement.column, Measurement.version, Measurement.timeStamp]
  have hid : (Measurement.two t id).column q "MeasurementID" = some id := by
    cases q <;> simp [Measurement.column, Measurement.version, sqlTimeStampField]
  simp only [SelectedBySQL, sqlQuery, sqlConditions, Measurement.version, List.forall_mem_append,
    forall_mem_guarded, Condition.holds, ht, hid, Comparison.holds, Operand.value, InSelection,
    InTimeRange, InIDRange, Measurement.timeStamp, Measurement.measurementID, reduceCtorEq,
    decide_false, Bool.false_eq_true, if_false, and_assoc, Int.ofNat_le, Int.ofNat_lt]

/-- A filter has `<` for the upper measurement ID. -/
theorem selectedByNoSQL_two (t id : Nat) :
    SelectedByNoSQL read q b (.two t id) ↔
      InTimeRange b.fromTimeStamp b.toTimeStamp t ∧
        (0 < b.fromMeasurementID → b.fromMeasurementID ≤ id) ∧
          (0 < b.toMeasurementID → id < b.toMeasurementID) := by
  have ht : (Measurement.two t id).field q (noSQLTimeStampField q .two) = some t := by
    simp [Measurement.field, Measurement.version]
  have hid : (Measurement.two t id).field q "measurementID" = some id := by
    cases q <;> simp [Measurement.field, Measurement.version, noSQLTimeStampField]
  simp only [SelectedByNoSQL, noSQLQuery, filterArray, Measurement.version, List.forall_mem_append,
    forall_mem_guarded, Condition.holds, ht, hid, Comparison.holds, Operand.value, InTimeRange,
    and_assoc, Int.ofNat_le, Int.ofNat_lt]

/-- A table of version 1 has no column for the measurement ID. -/
theorem selectedBySQL_one (t : Nat) :
    SelectedBySQL read q b (.one t) ↔
      ((0 < b.fromTimeStamp → read (quotedText b.fromTimeStamp) ≤ t) ∧
        (0 < b.toTimeStamp → t < read (quotedText b.toTimeStamp))) ∧
          b.fromMeasurementID = 0 ∧ b.toMeasurementID = 0 := by
  have ht : (Measurement.one t).column q (sqlTimeStampField q .one) = some (1000 * t) := by
    simp [Measurement.column, Measurement.version, Measurement.timeStamp]
  have hid : (Measurement.one t).column q "MeasurementID" = none := by
    simp [Measurement.column, Measurement.version, sqlTimeStampField]
  have hge : ∀ x : Int, Comparison.holds .ge (1000 * t : Nat) (1000 * x) ↔ x ≤ t := by
    unfold Comparison.holds
    omega
  have hlt : ∀ x : Int, Comparison.holds .lt (1000 * t : Nat) (1000 * x) ↔ t < x := by
    unfold Comparison.holds
    omega
  simp only [SelectedBySQL, sqlQuery, sqlConditions, Measurement.version, List.forall_mem_append,
    forall_mem_guarded, Condition.holds, ht, hid, Operand.value, hge, hlt, decide_true, if_true,
    and_assoc, imp_false, Nat.pos_iff_ne_zero, ne_eq, not_not]

theorem selectedByNoSQL_one (t : Nat) :
    SelectedByNoSQL read q b (.one t) ↔
      InTimeRange (b.fromTimeStamp / 1000) (b.toTimeStamp / 1000) t ∧
        b.fromMeasurementID = 0 ∧ b.toMeasurementID = 0 := by
  have ht : (Measurement.one t).field q (noSQLTimeStampField q .one) = some t := by
    simp [Measurement.field, Measurement.version]
  have hid : (Measurement.one t).field q "measurementID" = none := by
    simp [Measurement.field, Measurement.version, noSQLTimeStampField]
  simp only [SelectedByNoSQL, noSQLQuery, filterArray, Measurement.version, Bounds.microseconds,
    List.forall_mem_append, forall_mem_guarded, Condition.holds, ht, hid, Comparison.holds,
    Operand.value, InTimeRange, and_assoc, imp_false, Nat.pos_iff_ne_zero, ne_eq, not_not,
    Int.ofNat_le, Int.ofNat_lt]

end Selected

/-! ## When they agree -/

/-- The bounds of a filter for version 1 are cut to microseconds: the microsecond in which the time range
begins is selected, the one in which it ends is not, and a range that ends in the first microsecond has
no end. -/
def CutAt (fromTime toTime t : Nat) : Prop :=
  (fromTime % 1000 ≠ 0 ∧ t = fromTime / 1000 ∧ (toTime < 1000 ∨ t < toTime / 1000)) ∨
  (toTime % 1000 ≠ 0 ∧ 1000 ≤ toTime ∧ t = toTime / 1000 ∧ fromTime ≤ 1000 * t) ∨
  (0 < toTime ∧ toTime < 1000 ∧ 0 < t ∧ fromTime / 1000 ≤ t)

instance (fromTime toTime t : Nat) : Decidable (CutAt fromTime toTime t) :=
  inferInstanceAs (Decidable (_ ∨ _ ∨ _))

/-- The first microsecond that is not before a time. -/
def firstMicrosecond (nanoseconds : Nat) : Nat := (nanoseconds + 999) / 1000

/-- The time stamp lies between a bound and what the database reads of it, on the side of the other bound
that is selected. -/
def MovedOver (round : Int → Nat → Int) (fromTime toTime t : Nat) : Prop :=
  (0 < fromTime ∧ firstMicrosecond fromTime ≤ t ∧ t < boundMicrosecond round fromTime ∧
    (toTime = 0 ∨ t < firstMicrosecond toTime)) ∨
  (0 < fromTime ∧ boundMicrosecond round fromTime ≤ t ∧ t < firstMicrosecond fromTime ∧
    (toTime = 0 ∨ t < boundMicrosecond round toTime)) ∨
  (0 < toTime ∧ boundMicrosecond round toTime ≤ t ∧ t < firstMicrosecond toTime ∧
    (fromTime = 0 ∨ firstMicrosecond fromTime ≤ t)) ∨
  (0 < toTime ∧ firstMicrosecond toTime ≤ t ∧ t < boundMicrosecond round toTime ∧
    (fromTime = 0 ∨ boundMicrosecond round fromTime ≤ t))

instance (round : Int → Nat → Int) (fromTime toTime t : Nat) :
    Decidable (MovedOver round fromTime toTime t) :=
  inferInstanceAs (Decidable (_ ∨ _ ∨ _ ∨ _))

/-- Where both queries select a measurement exactly if they are meant to. -/
def SelectedRightly (round : Int → Nat → Int) (b : Bounds) : Measurement → Prop
  | .one t =>
      if 0 < b.fromMeasurementID then True
      else if 0 < b.toMeasurementID then ¬ InTimeRange b.fromTimeStamp b.toTimeStamp (1000 * t)
      else ¬ MovedOver round b.fromTimeStamp b.toTimeStamp t ∧ ¬ CutAt b.fromTimeStamp b.toTimeStamp t
  | .two t id =>
      ¬ (0 < b.toMeasurementID ∧ id = b.toMeasurementID ∧ b.fromMeasurementID ≤ id ∧
        InTimeRange b.fromTimeStamp b.toTimeStamp t)

instance (round : Int → Nat → Int) (b : Bounds) : (m : Measurement) → Decidable (SelectedRightly round b m)
  | .one t => inferInstanceAs (Decidable
      (if 0 < b.fromMeasurementID then True
      else if 0 < b.toMeasurementID then ¬ InTimeRange b.fromTimeStamp b.toTimeStamp (1000 * t)
      else
        ¬ MovedOver round b.fromTimeStamp b.toTimeStamp t ∧ ¬ CutAt b.fromTimeStamp b.toTimeStamp t))
  | .two _ _ => inferInstanceAs (Decidable (¬ _))

theorem inTimeRange_moved (round : Int → Nat → Int) (fromTime toTime t : Nat) :
    (((0 < fromTime → boundMicrosecond round fromTime ≤ t) ∧
        (0 < toTime → t < boundMicrosecond round toTime)) ↔ InTimeRange fromTime toTime (1000 * t)) ↔
      ¬ MovedOver round fromTime toTime t := by
  unfold InTimeRange MovedOver firstMicrosecond
  generalize boundMicrosecond round fromTime = lower
  generalize boundMicrosecond round toTime = upper
  omega

theorem inTimeRange_cut (fromTime toTime t : Nat) :
    (InTimeRange (fromTime / 1000) (toTime / 1000) t ↔ InTimeRange fromTime toTime (1000 * t)) ↔
      ¬ CutAt fromTime toTime t := by
  unfold InTimeRange CutAt
  omega

theorem not_cutAt_microseconds (fromTime toTime t : Nat) :
    ¬ CutAt (1000 * fromTime) (1000 * toTime) t := by
  unfold CutAt
  omega

section Agreement
variable {read : Text → Int} {round : Int → Nat → Int}

theorem selections_one_iff (h : Reads read round) (q : QueryType) (b : Bounds) (t : Nat) :
    ((SelectedBySQL read q b (.one t) ↔ InSelection b (.one t)) ∧
        (SelectedByNoSQL read q b (.one t) ↔ InSelection b (.one t))) ↔
      SelectedRightly round b (.one t) := by
  rw [selectedBySQL_one, selectedByNoSQL_one, h.quotedText, h.quotedText]
  dsimp only [SelectedRightly, InSelection, InIDRange, Measurement.timeStamp,
    Measurement.measurementID]
  by_cases hf : 0 < b.fromMeasurementID
  · -- No ID is 0 or more than a lower bound, and a query for one fails.
    have hne : b.fromMeasurementID ≠ 0 := by omega
    simp [hf, hne]
  · have hzero : b.fromMeasurementID = 0 := by omega
    by_cases ht : 0 < b.toMeasurementID
    · have hne : b.toMeasurementID ≠ 0 := by omega
      simp [hzero, ht, hne]
    · have htzero : b.toMeasurementID = 0 := by omega
      simp only [hzero, htzero, Nat.lt_irrefl, if_false, and_self, and_true, false_imp_iff]
      exact and_congr (inTimeRange_moved _ _ _ _) (inTimeRange_cut _ _ _)

theorem selections_two_iff (q : QueryType) (b : Bounds) (t id : Nat) :
    ((SelectedBySQL read q b (.two t id) ↔ InSelection b (.two t id)) ∧
        (SelectedByNoSQL read q b (.two t id) ↔ InSelection b (.two t id))) ↔
      SelectedRightly round b (.two t id) := by
  rw [selectedBySQL_two, selectedByNoSQL_two]
  dsimp only [SelectedRightly, InSelection, InIDRange, Measurement.timeStamp,
    Measurement.measurementID]
  by_cases hr : InTimeRange b.fromTimeStamp b.toTimeStamp t
  · simp only [hr, true_and, and_true]
    omega
  · simp only [hr, false_and, and_false, iff_self, not_false_eq_true, and_true]

end Agreement

/-! ## A database -/

def nearestMicrosecond (n : Int) (d : Nat) : Int := (2 * n + d) / (2 * d)

/-- The numbers of a text, as those of a date. -/
def readDate (text : Text) : Int :=
  match text.splitOnP fun c => !Numeral.isDigitOf 10 c with
  | [year, month, day, hours, minutes, seconds, digits] =>
      nearestMicrosecond
        ((timegm (Numeral.value 10 year) (Numeral.value 10 month) (Numeral.value 10 day)
            (Numeral.value 10 hours) (Numeral.value 10 minutes) (Numeral.value 10 seconds) *
          10 ^ digits.length + Numeral.value 10 digits) * 1000000) (10 ^ digits.length)
  | _ => 0

theorem nearestMicrosecond_spec (n : Int) {d : Nat} (hd : 0 < d) :
    2 * n - d < 2 * (nearestMicrosecond n d * d) ∧ 2 * (nearestMicrosecond n d * d) ≤ 2 * n + d := by
  have hdiv := Int.mul_ediv_add_emod (2 * n + d) (2 * d)
  have hmod := Int.emod_nonneg (2 * n + d) (b := 2 * d) (by omega)
  have hlt := Int.emod_lt_of_pos (2 * n + d) (b := 2 * d) (by omega)
  have hmul : 2 * (nearestMicrosecond n d * d) = 2 * d * ((2 * n + d) / (2 * d)) := by
    unfold nearestMicrosecond
    rw [Int.mul_comm _ (d : Int), Int.mul_assoc]
  omega

theorem splitOnP_number {digits : Text} (h : ∀ d ∈ digits, Numeral.isDigitOf 10 d = true) {c : Char}
    (hc : Numeral.isDigitOf 10 c = false) (rest : Text) :
    (digits ++ c :: rest).splitOnP (fun c => !Numeral.isDigitOf 10 c) =
      digits :: rest.splitOnP (fun c => !Numeral.isDigitOf 10 c) :=
  List.splitOnP_append_cons_of_forall_mem (fun d hd => by rw [h d hd]; rfl) c (by rw [hc]; rfl) rest

theorem reads_nearest : Reads readDate nearestMicrosecond where
  near n d hd := by
    have hspec := nearestMicrosecond_spec n hd
    omega
  date tm digits _ _ _ hdigits := by
    have hpadded := fun width n : Nat =>
      Numeral.isDigitOf_padded (show 1 < 10 by decide) (show 10 ≤ 16 by decide) width n
    have hlast : digits.splitOnP (fun c => !Numeral.isDigitOf 10 c) = [digits] :=
      List.splitOnP_eq_singleton fun d hd => by rw [hdigits d hd]; rfl
    have hsplit : (Tools.putTime tm Tools.dateFormat ++ '.' :: digits).splitOnP
        (fun c => !Numeral.isDigitOf 10 c) =
          [Numeral.padded 10 4 tm.year, Numeral.padded 10 2 tm.month, Numeral.padded 10 2 tm.day,
            Numeral.padded 10 2 tm.hours, Numeral.padded 10 2 tm.minutes,
            Numeral.padded 10 2 tm.seconds, digits] := by
      rw [Tools.putTime_dateFormat]
      simp only [List.append_assoc, List.cons_append]
      rw [splitOnP_number (hpadded _ _) (by decide), splitOnP_number (hpadded _ _) (by decide),
        splitOnP_number (hpadded _ _) (by decide), splitOnP_number (hpadded _ _) (by decide),
        splitOnP_number (hpadded _ _) (by decide), splitOnP_number (hpadded _ _) (by decide), hlast]
    unfold readDate
    rw [hsplit]
    dsimp only
    rw [Numeral.value_padded (by decide) (by decide), Numeral.value_padded (by decide) (by decide),
      Numeral.value_padded (by decide) (by decide), Numeral.value_padded (by decide) (by decide),
      Numeral.value_padded (by decide) (by decide), Numeral.value_padded (by decide) (by decide)]
    rfl

/-- Of a bound of whole microseconds, in the years from 2007 to 2042, the database reads the microsecond. -/
theorem boundMicrosecond_nearest {microseconds : Nat} (hlow : 2 ^ 60 ≤ 1000 * microseconds)
    (hhigh : 1000 * microseconds < 2 ^ 61) :
    boundMicrosecond nearestMicrosecond (1000 * microseconds) = microseconds := by
  have htime : nanosecondsToTimePoint (1000 * microseconds) = (1000 * microseconds : Nat) :=
    Int.bmod_eq_of_le (by omega) (by omega)
  obtain ⟨hnumber, habove, hbelow⟩ := Tools.text_near hlow hhigh
  have hplaces : (Numeral.padded 10 9 (Tools.fractionNumber (1000 * microseconds : Nat) 9)).length = 9 :=
    Numeral.padded_length (by decide) (by decide) hnumber
  unfold boundMicrosecond
  rw [htime]
  dsimp only
  rw [hplaces]
  unfold nearestMicrosecond
  omega

theorem not_movedOver_microseconds {fromTime toTime : Nat} (t : Nat)
    (hfrom : fromTime = 0 ∨ 2 ^ 60 ≤ 1000 * fromTime ∧ 1000 * fromTime < 2 ^ 61)
    (hto : toTime = 0 ∨ 2 ^ 60 ≤ 1000 * toTime ∧ 1000 * toTime < 2 ^ 61) :
    ¬ MovedOver nearestMicrosecond (1000 * fromTime) (1000 * toTime) t := by
  have hread : ∀ {bound : Nat}, bound = 0 ∨ 2 ^ 60 ≤ 1000 * bound ∧ 1000 * bound < 2 ^ 61 →
      bound = 0 ∨ boundMicrosecond nearestMicrosecond (1000 * bound) = bound := by
    rintro bound (hzero | ⟨hlow, hhigh⟩)
    · exact Or.inl hzero
    · exact Or.inr (boundMicrosecond_nearest hlow hhigh)
  have hlower := hread hfrom
  have hupper := hread hto
  unfold MovedOver firstMicrosecond
  generalize boundMicrosecond nearestMicrosecond (1000 * fromTime) = lower at hlower ⊢
  generalize boundMicrosecond nearestMicrosecond (1000 * toTime) = upper at hupper ⊢
  omega

/-- With such bounds, both queries on tables of version 1 select exactly the time range. -/
theorem selections_microseconds (q : QueryType) {fromTime toTime : Nat} (t : Nat)
    (hfrom : fromTime = 0 ∨ 2 ^ 60 ≤ 1000 * fromTime ∧ 1000 * fromTime < 2 ^ 61)
    (hto : toTime = 0 ∨ 2 ^ 60 ≤ 1000 * toTime ∧ 1000 * toTime < 2 ^ 61) :
    (SelectedBySQL readDate q ⟨1000 * fromTime, 1000 * toTime, 0, 0⟩ (.one t) ↔
        InTimeRange (1000 * fromTime) (1000 * toTime) (1000 * t)) ∧
      (SelectedByNoSQL readDate q ⟨1000 * fromTime, 1000 * toTime, 0, 0⟩ (.one t) ↔
        InTimeRange (1000 * fromTime) (1000 * toTime) (1000 * t)) := by
  have hiff := (selections_one_iff reads_nearest q ⟨1000 * fromTime, 1000 * toTime, 0, 0⟩ t).mpr
    ⟨not_movedOver_microseconds t hfrom hto, not_cutAt_microseconds fromTime toTime t⟩
  simpa [InSelection, InIDRange, Measurement.timeStamp] using hiff

-- a bound of 456.1 microseconds, of which the database reads 456
example : MovedOver nearestMicrosecond 1700000000123456100 0 1700000000123456 := by decide +kernel

/-! ## All measurements -/

/-- The WHERE clause and the filter select a measurement alike, and exactly if it is in the selection, if
and only if the bounds are away from it. -/
theorem selections_iff {read : Text → Int} {round : Int → Nat → Int} (h : Reads read round)
    (q : QueryType) (b : Bounds) (m : Measurement) :
    ((SelectedBySQL read q b m ↔ SelectedByNoSQL read q b m) ∧
        (SelectedBySQL read q b m ↔ InSelection b m) ∧
        (SelectedByNoSQL read q b m ↔ InSelection b m)) ↔
      SelectedRightly round b m := by
  have hparts : ((SelectedBySQL read q b m ↔ InSelection b m) ∧
      (SelectedByNoSQL read q b m ↔ InSelection b m)) ↔ SelectedRightly round b m := by
    cases m with
    | one t => exact selections_one_iff h q b t
    | two t id => exact selections_two_iff q b t id
  rw [← hparts]
  constructor
  · rintro ⟨-, hsql, hno⟩
    exact ⟨hsql, hno⟩
  · rintro ⟨hsql, hno⟩
    exact ⟨hsql.trans hno.symm, hsql, hno⟩

/-- The first microsecond of a range, behind a bound that is no whole microsecond. -/
theorem selections_first_microsecond :
    (SelectedBySQL readDate .traceroute ⟨1700000000123456700, 1700000001000000000, 0, 0⟩
          (.one 1700000000123457) ↔
        SelectedByNoSQL readDate .traceroute ⟨1700000000123456700, 1700000001000000000, 0, 0⟩
          (.one 1700000000123457)) ∧
      (SelectedBySQL readDate .traceroute ⟨1700000000123456700, 1700000001000000000, 0, 0⟩
          (.one 1700000000123457) ↔
        InSelection ⟨1700000000123456700, 1700000001000000000, 0, 0⟩ (.one 1700000000123457)) ∧
      (SelectedByNoSQL readDate .traceroute ⟨1700000000123456700, 1700000001000000000, 0, 0⟩
          (.one 1700000000123457) ↔
        InSelection ⟨1700000000123456700, 1700000001000000000, 0, 0⟩ (.one 1700000000123457)) :=
  (selections_iff reads_nearest .traceroute ⟨1700000000123456700, 1700000001000000000, 0, 0⟩
    (.one 1700000000123457)).mpr (by decide +kernel)

/-- A measurement with the ID 1000 is exported up to the ID 1000 from an SQL database, but not from a
NoSQL database. -/
theorem upper_measurementID_lost :
    ¬ ((SelectedBySQL readDate .ping ⟨0, 0, 1, 1000⟩ (.two 5 1000) ↔
          SelectedByNoSQL readDate .ping ⟨0, 0, 1, 1000⟩ (.two 5 1000)) ∧
        (SelectedBySQL readDate .ping ⟨0, 0, 1, 1000⟩ (.two 5 1000) ↔
          InSelection ⟨0, 0, 1, 1000⟩ (.two 5 1000)) ∧
        (SelectedByNoSQL readDate .ping ⟨0, 0, 1, 1000⟩ (.two 5 1000) ↔
          InSelection ⟨0, 0, 1, 1000⟩ (.two 5 1000))) := by
  rw [selectedBySQL_two, selectedByNoSQL_two]
  decide

end HiPerConTracer.Query
