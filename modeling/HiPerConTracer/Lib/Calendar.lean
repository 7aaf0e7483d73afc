import Mathlib.Algebra.BigOperators.Group.List.Basic
import Mathlib.Algebra.Group.Int.Defs
import Mathlib.Algebra.Group.Nat.Defs
import Mathlib.Algebra.GroupWithZero.Nat

/-!
# Dates of the Gregorian calendar

Days are counted from the year 1, and seconds from 1970-01-01.  `gmtime` looks for the year and the month
of a number of seconds, one after the other, and `timegm` goes back:

    timegm (gmtime seconds) = seconds, from the year 1 on                             (timegm_gmtime)
-/

namespace HiPerConTracer.Calendar

def isLeapYear (year : Nat) : Bool := year % 4 = 0 ∧ (year % 100 ≠ 0 ∨ year % 400 = 0)

def daysInMonth (year month : Nat) : Nat :=
  if month = 2 then if isLeapYear year then 29 else 28
  else if month = 4 ∨ month = 6 ∨ month = 9 ∨ month = 11 then 30
  else 31

def daysInYear (year : Nat) : Nat := if isLeapYear year then 366 else 365

/-- The days of a year before a month. -/
def daysBeforeMonth (year month : Nat) : Nat :=
  ((List.range' 1 (month - 1)).map (daysInMonth year)).sum

/-- The days before a year, from the year 1 on. -/
def daysBeforeYear (year : Int) : Int :=
  365 * (year - 1) + (year - 1) / 4 - (year - 1) / 100 + (year - 1) / 400

/-- `timegm`: seconds since 1970-01-01. -/
def timegm (year month day hours minutes seconds : Nat) : Int :=
  (daysBeforeYear year - daysBeforeYear 1970 + daysBeforeMonth year month + (day - 1)) * 86400 +
    (hours * 3600 + minutes * 60 + seconds)

/-- A date with a time of the day. -/
structure DateTime where
  year : Nat
  month : Nat
  day : Nat
  hours : Nat
  minutes : Nat
  seconds : Nat
  month_range : 1 ≤ month ∧ month ≤ 12
  day_range : 1 ≤ day ∧ day ≤ daysInMonth year month
  hours_lt : hours < 24
  minutes_lt : minutes < 60
  seconds_lt : seconds < 60

def DateTime.timegm (t : DateTime) : Int :=
  Calendar.timegm t.year t.month t.day t.hours t.minutes t.seconds

theorem daysInMonth_le (year month : Nat) : daysInMonth year month ≤ 31 := by
  unfold daysInMonth
  repeat' split
  all_goals omega

theorem DateTime.day_le (t : DateTime) : t.day ≤ 31 :=
  Nat.le_trans t.day_range.2 (daysInMonth_le t.year t.month)

/-! ## Years -/

theorem daysInYear_ge (year : Nat) : 365 ≤ daysInYear year := by
  unfold daysInYear
  split <;> omega

theorem daysBeforeYear_succ (year : Nat) :
    daysBeforeYear (year + 1 : Nat) = daysBeforeYear year + daysInYear year := by
  unfold daysBeforeYear daysInYear isLeapYear
  push_cast
  simp only [decide_eq_true_eq]
  split <;> omega

/-- The year of a day, counted from the begin of a year on, and the day in this year. -/
def findYear : Nat → Nat → Nat → Nat × Nat
  | 0, year, days => (year, days)
  | fuel + 1, year, days =>
    if days < daysInYear year then (year, days) else findYear fuel (year + 1) (days - daysInYear year)

theorem findYear_spec {fuel year days : Nat} (h : days < 365 * (fuel + 1)) :
    (findYear fuel year days).2 < daysInYear (findYear fuel year days).1 ∧
      daysBeforeYear (findYear fuel year days).1 + (findYear fuel year days).2 =
        daysBeforeYear year + days := by
  induction fuel generalizing year days with
  | zero => exact ⟨Nat.lt_of_lt_of_le h (daysInYear_ge year), rfl⟩
  | succ fuel ih =>
    unfold findYear
    split
    · next hlt => exact ⟨hlt, rfl⟩
    · next hge =>
      have hyear := daysInYear_ge year
      obtain ⟨hday, hsum⟩ := @ih (year + 1) (days - daysInYear year) (by omega)
      refine ⟨hday, hsum.trans ?_⟩
      rw [daysBeforeYear_succ]
      omega

/-! ## Months -/

theorem daysBeforeMonth_succ (year : Nat) {month : Nat} (h : 1 ≤ month) :
    daysBeforeMonth year (month + 1) = daysBeforeMonth year month + daysInMonth year month := by
  unfold daysBeforeMonth
  obtain ⟨m, rfl⟩ : ∃ m, month = m + 1 := ⟨month - 1, by omega⟩
  rw [Nat.add_sub_cancel, Nat.add_sub_cancel, List.range'_concat, List.map_append, List.sum_append,
    List.map_singleton, List.sum_singleton, Nat.one_mul, Nat.add_comm 1 m]

theorem daysBeforeMonth_all (year : Nat) : daysBeforeMonth year 13 = daysInYear year := by
  cases h : isLeapYear year <;>
    simp [daysBeforeMonth, List.range', daysInMonth, daysInYear, h]

/-- The month of a day, counted from the begin of a month on, and the day in this month. -/
def findMonth (year : Nat) : Nat → Nat → Nat → Nat × Nat
  | 0, month, days => (month, days)
  | fuel + 1, month, days =>
    if days < daysInMonth year month then (month, days)
    else findMonth year fuel (month + 1) (days - daysInMonth year month)

theorem findMonth_spec {year fuel month days : Nat} (hmonth : 1 ≤ month) (hfuel : month + fuel = 12)
    (h : daysBeforeMonth year month + days < daysInYear year) :
    (1 ≤ (findMonth year fuel month days).1 ∧ (findMonth year fuel month days).1 ≤ 12) ∧
      (findMonth year fuel month days).2 < daysInMonth year (findMonth year fuel month days).1 ∧
      daysBeforeMonth year (findMonth year fuel month days).1 + (findMonth year fuel month days).2 =
        daysBeforeMonth year month + days := by
  induction fuel generalizing month days with
  | zero =>
    obtain rfl : month = 12 := hfuel
    refine ⟨⟨show 1 ≤ 12 by decide, Nat.le_refl _⟩, ?_, rfl⟩
    have hall := daysBeforeMonth_all year
    rw [daysBeforeMonth_succ year (by decide)] at hall
    show days < daysInMonth year 12
    omega
  | succ fuel ih =>
    unfold findMonth
    split
    · next hlt => exact ⟨⟨hmonth, by omega⟩, hlt, rfl⟩
    · next hge =>
      have hsucc := daysBeforeMonth_succ year hmonth
      obtain ⟨hrange, hday, hsum⟩ := @ih (month + 1) (days - daysInMonth year month) (by omega)
        (by omega) (by omega)
      exact ⟨hrange, hday, by omega⟩

/-! ## Seconds -/

/-- The year of some seconds, and the day in this year. -/
def yearOf (seconds : Int) : Nat × Nat :=
  let days := (seconds / 86400 + daysBeforeYear 1970).toNat
  findYear (days / 365) 1 days

def monthOf (seconds : Int) : Nat × Nat := findMonth (yearOf seconds).1 11 1 (yearOf seconds).2

theorem yearOf_spec (seconds : Int) :
    (yearOf seconds).2 < daysInYear (yearOf seconds).1 ∧
      daysBeforeYear (yearOf seconds).1 + (yearOf seconds).2 =
        (seconds / 86400 + daysBeforeYear 1970).toNat := by
  obtain ⟨hday, hsum⟩ := @findYear_spec ((seconds / 86400 + daysBeforeYear 1970).toNat / 365) 1
    (seconds / 86400 + daysBeforeYear 1970).toNat (by omega)
  refine ⟨hday, hsum.trans ?_⟩
  have hzero : daysBeforeYear (1 : Nat) = 0 := rfl
  rw [hzero, Int.zero_add]

theorem monthOf_spec (seconds : Int) :
    (1 ≤ (monthOf seconds).1 ∧ (monthOf seconds).1 ≤ 12) ∧
      (monthOf seconds).2 < daysInMonth (yearOf seconds).1 (monthOf seconds).1 ∧
      daysBeforeMonth (yearOf seconds).1 (monthOf seconds).1 + (monthOf seconds).2 =
        (yearOf seconds).2 := by
  have hfirst : daysBeforeMonth (yearOf seconds).1 1 = 0 := rfl
  obtain ⟨hrange, hday, hsum⟩ := @findMonth_spec (yearOf seconds).1 11 1 (yearOf seconds).2
    (Nat.le_refl _) rfl (by rw [hfirst, Nat.zero_add]; exact (yearOf_spec seconds).1)
  exact ⟨hrange, hday, hsum.trans (by rw [hfirst, Nat.zero_add])⟩

/-- `gmtime`, from the year 1 on. -/
def gmtime (seconds : Int) : DateTime where
  year := (yearOf seconds).1
  month := (monthOf seconds).1
  day := (monthOf seconds).2 + 1
  hours := (seconds % 86400).toNat / 3600
  minutes := (seconds % 86400).toNat / 60 % 60
  seconds := (seconds % 86400).toNat % 60
  month_range := (monthOf_spec seconds).1
  day_range := ⟨Nat.succ_le_succ (Nat.zero_le _), (monthOf_spec seconds).2.1⟩
  hours_lt := by omega
  minutes_lt := Nat.mod_lt _ (by decide)
  seconds_lt := Nat.mod_lt _ (by decide)

theorem timegm_gmtime {seconds : Int} (h : -62135596800 ≤ seconds) : (gmtime seconds).timegm = seconds := by
  obtain ⟨-, hyear⟩ := yearOf_spec seconds
  obtain ⟨-, -, hmonth⟩ := monthOf_spec seconds
  have hepoch : daysBeforeYear 1970 = 719162 := rfl
  unfold DateTime.timegm timegm gmtime
  rw [hepoch] at hyear ⊢
  generalize daysBeforeYear (yearOf seconds).1 = years at hyear ⊢
  dsimp only
  omega

/-- The years of four digits. -/
theorem gmtime_year {seconds : Int} (hlow : -30610224000 ≤ seconds) (hhigh : seconds < 253402300800) :
    1000 ≤ (gmtime seconds).year ∧ (gmtime seconds).year ≤ 9999 := by
  obtain ⟨hday, hyear⟩ := yearOf_spec seconds
  have hepoch : daysBeforeYear 1970 = 719162 := rfl
  have hdays : daysInYear (yearOf seconds).1 ≤ 366 := by
    unfold daysInYear
    split <;> omega
  rw [hepoch] at hyear
  show 1000 ≤ (yearOf seconds).1 ∧ (yearOf seconds).1 ≤ 9999
  unfold daysBeforeYear at hyear
  unfold daysInYear isLeapYear at hday
  simp only [decide_eq_true_eq] at hday
  split at hday <;> omega

end HiPerConTracer.Calendar
