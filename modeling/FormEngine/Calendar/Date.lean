/-!
# Calendar dates

Dates of the Gregorian calendar from year 1 to year 9999. Every `Date` is a day that exists.
-/

namespace FormEngine

-- Sums start from the core library's zero, whatever algebra is in scope beside this module.
attribute [local instance (high)] Zero.ofOfNat0

/-- A year with a 29th of February. -/
def isLeapYear (year : Nat) : Bool :=
  year % 4 == 0 && (year % 100 != 0 || year % 400 == 0)

def yearLength (year : Nat) : Nat :=
  if isLeapYear year then 366 else 365

def monthLength (year month : Nat) : Nat :=
  match month with
  | 2 => if isLeapYear year then 29 else 28
  | 4 | 6 | 9 | 11 => 30
  | _ => 31

/-- Whether year, month and day name a day of the calendar. -/
def IsDay (year month day : Nat) : Prop :=
  1 ≤ year ∧ year ≤ 9999 ∧ 1 ≤ month ∧ month ≤ 12 ∧ 1 ≤ day ∧ day ≤ monthLength year month

instance (year month day : Nat) : Decidable (IsDay year month day) := by
  unfold IsDay; infer_instance

/-- A day of the calendar. -/
structure Date where
  year : Nat
  month : Nat
  day : Nat
  exists_day : IsDay year month day
  deriving DecidableEq

namespace Date

instance : Inhabited Date := ⟨⟨1, 1, 1, by decide⟩⟩

instance : Repr Date where
  reprPrec date _ := repr (date.year, date.month, date.day)

/-- The named day, if the calendar has it. -/
def of? (year month day : Nat) : Option Date :=
  if h : IsDay year month day then some ⟨year, month, day, h⟩ else none

/-- Days of all years before the given one. -/
def daysBeforeYear (year : Nat) : Nat :=
  let past := year - 1
  past * 365 + past / 4 - past / 100 + past / 400

/-- Days of the year before the given month. -/
def daysBeforeMonth (year month : Nat) : Nat :=
  ((List.range' 1 (month - 1)).map (monthLength year)).sum

/-- The number of a day, counted from 1 on the first day of year 1. -/
def ordinal (date : Date) : Nat :=
  daysBeforeYear date.year + daysBeforeMonth date.year date.month + date.day

/-- Finds the month that holds a day of the year. -/
def locate (year month dayOfYear : Nat) : Nat → Option Date
  | 0 => none
  | months + 1 =>
    if dayOfYear ≤ monthLength year month then of? year month dayOfYear
    else locate year (month + 1) (dayOfYear - monthLength year month) months

/-- A day of the year counted from 1. Counts up to a week outside the year reach into the
neighbouring years. -/
def ofDayOfYear? (year : Nat) (dayOfYear : Int) : Option Date :=
  if dayOfYear < 1 then of? (year - 1) 12 (31 + dayOfYear).toNat
  else if dayOfYear > yearLength year then
    of? (year + 1) 1 (dayOfYear - yearLength year).toNat
  else locate year 1 dayOfYear.toNat 12

/-- The weekday of the first of January, Monday being 0. -/
def firstWeekday (year : Nat) : Nat :=
  daysBeforeYear year % 7

/-- Weeks of a week-numbered year: 53 if it begins on a Thursday, or on a Wednesday in a leap
year, and 52 otherwise. -/
def weeksOf (year : Nat) : Nat :=
  if firstWeekday year == 3 || (firstWeekday year == 2 && isLeapYear year) then 53 else 52

/-- The day of a week date. The first week of a year is the one with its first Thursday, and weeks
begin on Monday, day 1. -/
def ofWeek? (year week weekday : Nat) : Option Date :=
  if 1 ≤ year && year ≤ 9999 && 1 ≤ week && week ≤ weeksOf year
      && 1 ≤ weekday && weekday ≤ 7 then
    let monday : Int := if firstWeekday year > 3 then 8 - (firstWeekday year : Int)
      else 1 - (firstWeekday year : Int)
    ofDayOfYear? year (monday + 7 * ((week : Int) - 1) + ((weekday : Int) - 1))
  else none

/-- The order of the calendar. -/
def before (left right : Date) : Bool :=
  left.ordinal < right.ordinal

end Date

end FormEngine
