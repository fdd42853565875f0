/-
Dates of the Gregorian calendar, extended back to year one. A date knows
that it is one: its year lies between 1 and 9999, its month between 1 and
12, and its day within the month.

Days are numbered from the first of January of year one, a Monday, as
day zero. The year of a day is found by walking from year to year inside
a cycle of four hundred years, which always has the same length, and the
month by walking from month to month inside the year.
-/
import Logline.Text

namespace Logline.Calendar

/-- Is there a 29th of February in the year? -/
def isLeap (year : Nat) : Bool :=
  year % 4 = 0 && (year % 100 ≠ 0 || year % 400 = 0)

/-- The length of a year in days. -/
def daysInYear (year : Nat) : Nat :=
  if isLeap year then 366 else 365

/-- The length of a month in days. -/
def daysInMonth (year month : Nat) : Nat :=
  match month with
  | 2 => if isLeap year then 29 else 28
  | 4 | 6 | 9 | 11 => 30
  | _ => 31

/-- The days of the years from year one up to a year. -/
def daysBeforeYear (year : Nat) : Nat :=
  365 * (year - 1) + (year - 1) / 4 - (year - 1) / 100 + (year - 1) / 400

/-- The days of a year's months before a month. -/
def daysBeforeMonth (year : Nat) : Nat → Nat
  | 0 => 0
  | 1 => 0
  | month + 2 =>
    daysBeforeMonth year (month + 1) + daysInMonth year (month + 1)

/-- A day of the calendar. -/
structure Date where
  year : Nat
  month : Nat
  day : Nat
  year_pos : 1 ≤ year := by decide
  year_le : year ≤ 9999 := by decide
  month_pos : 1 ≤ month := by decide
  month_le : month ≤ 12 := by decide
  day_pos : 1 ≤ day := by decide
  day_le : day ≤ daysInMonth year month := by decide
  deriving DecidableEq

/-- The length of the cycle in which leap years repeat. -/
def daysInCycle : Nat := 146097

/-- From the first day of a year on: the year that holds the `n`-th day,
and the day's place in that year. -/
def walkYears (year n : Nat) : Nat × Nat :=
  if n < daysInYear year then (year, n)
  else walkYears (year + 1) (n - daysInYear year)
termination_by n
decreasing_by
  have : 0 < daysInYear year := by unfold daysInYear; split <;> decide
  omega

/-- From the first day of a month on: the month that holds the `n`-th
day, and the day's place in that month. -/
def walkMonths (year month n : Nat) : Nat × Nat :=
  if n < daysInMonth year month then (month, n)
  else walkMonths year (month + 1) (n - daysInMonth year month)
termination_by n
decreasing_by
  have : 0 < daysInMonth year month := by
    unfold daysInMonth
    repeat' split
    all_goals decide
  omega

/-- The year of a day number and the day's place in that year, for days
before year one too. -/
def yearOfDay (n : Int) : Int × Nat :=
  let (year, place) := walkYears 1 (n % daysInCycle).toNat
  (400 * (n / daysInCycle) + year, place)

namespace Date

/-- The date with the given year, month and day, if there is one. -/
def ofParts? (year month day : Nat) : Option Date :=
  if h : 1 ≤ year ∧ year ≤ 9999 ∧ 1 ≤ month ∧ month ≤ 12 ∧ 1 ≤ day ∧
      day ≤ daysInMonth year month then
    some ⟨year, month, day, h.1, h.2.1, h.2.2.1, h.2.2.2.1, h.2.2.2.2.1,
      h.2.2.2.2.2⟩
  else none

/-- The number of the day, counted from the start of year one. -/
def number (d : Date) : Nat :=
  daysBeforeYear d.year + daysBeforeMonth d.year d.month + (d.day - 1)

/-- The date of a day number, or its year when that is out of range. -/
def ofNumber (n : Int) : Except Int Date :=
  let (year, place) := yearOfDay n
  let (month, day) := walkMonths year.toNat 1 place
  match ofParts? year.toNat month (day + 1) with
  | some date => .ok date
  | none => .error year

/-- The day of the week: Monday is zero. -/
def weekday (d : Date) : Nat :=
  d.number % 7

/-- The day's place in its year: the first of January is zero. -/
def yearDay (d : Date) : Nat :=
  daysBeforeMonth d.year d.month + (d.day - 1)

/-- The week of the year, weeks starting on Mondays; the days before the
first Monday are in week zero. -/
def mondayWeek (d : Date) : Nat :=
  (d.yearDay + 7 - d.weekday) / 7

/-- The week of the year, weeks starting on Sundays. -/
def sundayWeek (d : Date) : Nat :=
  (d.yearDay + 7 - (d.weekday + 1) % 7) / 7

/-- The numbered week that holds the day, with the year that numbers it:
the year of the week's Thursday. -/
def weekDate (d : Date) : Int × Nat :=
  let (year, place) := yearOfDay (d.number - d.weekday + 3)
  (year, place / 7 + 1)

/-- The English names of the months. -/
def monthNames : List Text :=
  ["January", "February", "March", "April", "May", "June", "July",
   "August", "September", "October", "November", "December"]

/-- The English names of the days of the week. -/
def weekdayNames : List Text :=
  ["Monday", "Tuesday", "Wednesday", "Thursday", "Friday", "Saturday",
   "Sunday"]

/-- The name of the month. -/
def monthName (d : Date) : Text :=
  monthNames.getD (d.month - 1) []

/-- The name of the day of the week. -/
def weekdayName (d : Date) : Text :=
  weekdayNames.getD d.weekday []

theorem day_lt (d : Date) : d.day < 32 := by
  have hday := d.day_le
  unfold daysInMonth at hday
  split at hday
  · split at hday <;> omega
  all_goals omega

end Date

end Logline.Calendar
