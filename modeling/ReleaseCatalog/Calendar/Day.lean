import ReleaseCatalog.Text.Basic

/-!
# Days of the calendar

Days are counted in the Gregorian calendar, carried on to all years before and
after it was used.  A day is written with its year in at least four places,
its month and its day of the month in two, joined by hyphens, so that for
years of four digits the order of the texts is the order of the days.
-/

namespace ReleaseCatalog.Calendar

/-- Whether a year has a 29th of February. -/
def isLeapYear (year : Int) : Bool := year % 4 = 0 && (year % 100 ≠ 0 || year % 400 = 0)

/-- The number of days of a month, and none for a number that is no month. -/
def daysInMonth (year month : Int) : Int :=
  if month = 2 then if isLeapYear year then 29 else 28
  else if month = 4 ∨ month = 6 ∨ month = 9 ∨ month = 11 then 30
  else if 1 ≤ month ∧ month ≤ 12 then 31
  else 0

/-- The year, month and day of the month name a day. -/
def IsDay (year month day : Int) : Prop :=
  1 ≤ month ∧ month ≤ 12 ∧ 1 ≤ day ∧ day ≤ daysInMonth year month

instance (year month day : Int) : Decidable (IsDay year month day) := by
  unfold IsDay; infer_instance

/-- The years that are accepted, both ends included. -/
structure YearRange where
  first : Int := 1900
  last : Int := 2099
deriving DecidableEq, Repr

/-- The year lies in the range. -/
def YearRange.Contains (range : YearRange) (year : Int) : Prop :=
  range.first ≤ year ∧ year ≤ range.last

instance (range : YearRange) (year : Int) : Decidable (range.Contains year) := by
  unfold YearRange.Contains; infer_instance

/-- A day as text. -/
def writeDay (year month day : Int) : Text :=
  Text.ofIntPadded 4 year ++ ['-'] ++ Text.ofIntPadded 2 month ++ ['-'] ++ Text.ofIntPadded 2 day

/-- The text of a day in a year of the range, or nothing if there is no such day. -/
def normalizeDay (range : YearRange) (year month day : Int) : Option Text :=
  if range.Contains year ∧ IsDay year month day then some (writeDay year month day) else none

/-- Exactly the days of the accepted years have a text, and it is the written day. -/
theorem normalizeDay_eq_some_iff {range : YearRange} {year month day : Int} {t : Text} :
    normalizeDay range year month day = some t ↔
      range.Contains year ∧ IsDay year month day ∧ writeDay year month day = t := by
  unfold normalizeDay
  rw [Option.ite_none_right_eq_some, Option.some.injEq, and_assoc]

/-! ## Tests -/

example : normalizeDay {} 2020 2 29 = some "2020-02-29".toList := by decide
example : normalizeDay {} 2019 2 29 = none ∧ normalizeDay {} 1900 2 29 = none := by decide

end ReleaseCatalog.Calendar
