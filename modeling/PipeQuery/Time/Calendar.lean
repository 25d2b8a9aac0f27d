/-!
# The calendar

Dates of the Gregorian calendar, taken back before its introduction, and the
count of days from 1970-01-01.  Years are grouped in cycles of 400, each of
146097 days, that start on the first of March of a year divisible by 400.
-/

namespace PipeQuery

/-- A day of the calendar. -/
structure Date where
  year : Int
  month : Nat
  day : Nat
  deriving DecidableEq, Inhabited

namespace Date

/-- A year of 366 days. -/
def isLeapYear (year : Int) : Bool :=
  year % 4 == 0 && (year % 100 != 0 || year % 400 == 0)

/-- The number of days of a month. -/
def daysInMonth (year : Int) (month : Nat) : Nat :=
  if month = 2 then (if isLeapYear year then 29 else 28)
  else if month = 4 ∨ month = 6 ∨ month = 9 ∨ month = 11 then 30 else 31

/-- Days from the first of March of year 0 to 1970-01-01. -/
def epochOffset : Int := 719468

/-- The number of days from 1970-01-01 to the date. -/
def dayNumber (d : Date) : Int :=
  let year := if d.month ≤ 2 then d.year - 1 else d.year
  let month : Int := if d.month ≤ 2 then d.month + 9 else d.month - 3
  let cycle := year / 400
  let yearOfCycle := year % 400
  let dayOfYear := (153 * month + 2) / 5 + d.day - 1
  cycle * 146097 + (yearOfCycle * 365 + yearOfCycle / 4 - yearOfCycle / 100 + dayOfYear)
    - epochOffset

/-- The date so many days from 1970-01-01. -/
def ofDayNumber (n : Int) : Date :=
  let shifted := n + epochOffset
  let cycle := shifted / 146097
  let dayOfCycle := shifted % 146097
  let yearOfCycle :=
    (dayOfCycle - dayOfCycle / 1460 + dayOfCycle / 36524 - dayOfCycle / 146096) / 365
  let dayOfYear := dayOfCycle - (365 * yearOfCycle + yearOfCycle / 4 - yearOfCycle / 100)
  let month := (5 * dayOfYear + 2) / 153
  let day := dayOfYear - (153 * month + 2) / 5 + 1
  let year := yearOfCycle + cycle * 400
  { year := if month < 10 then year else year + 1
    month := (if month < 10 then month + 3 else month - 9).toNat
    day := day.toNat }

/-- The day of the week, from 0 for Monday. -/
def weekday (n : Int) : Int := (n + 3) % 7

/-- The first year that dates have. -/
def firstYear : Int := 1

/-- The last year that dates have. -/
def lastYear : Int := 9999

/-- A year that dates can have. -/
def yearInRange (year : Int) : Bool := firstYear ≤ year && year ≤ lastYear

/-- The Monday of the first week of a year: the week that holds 4 January. -/
def firstMonday (year : Int) : Int :=
  let fourth := dayNumber ⟨year, 1, 4⟩
  fourth - weekday fourth

/-- The number of weeks of a year. -/
def weeksInYear (year : Int) : Int := (firstMonday (year + 1) - firstMonday year) / 7

end Date

end PipeQuery
