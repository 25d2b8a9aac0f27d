import PipeQuery.Proofs.TimeLabels
import Mathlib.Tactic.IntervalCases

/-!
# Days as the calendar counts them

A date is found from a number of days by dividing into cycles of 400 years.  The
calendar itself is said here without cycles: a year has 366 days if it is a leap year
and 365 otherwise, and the day of a date is counted through whole years, whole months
and days (`Date.ordinal`, which is 1 for the first of January of year 1).

* `Date.ordinal_eq`: the number of a day is counted so.
* `Date.lies_yearOfCycle`: the divisions find a year that has begun and not ended.
* `Date.isValid_ofDayNumber`: what is found is a date of the calendar, so the 29th of
  February in leap years only.
* `Date.ordinal_ofDayNumber`: and it is the right one: counting its days gives the
  number that it was found from.
* `yearAt_iff`: the years 1 to 9999 lie between the first instants of two years.
-/

namespace PipeQuery

namespace Date

/-! ## The calendar -/

/-- The days of a year. -/
def daysInYear (year : Int) : Nat := if isLeapYear year then 366 else 365

/-- The days of the years 1 to `year`. -/
def daysThroughYear : Nat → Nat
  | 0 => 0
  | year + 1 => daysThroughYear year + daysInYear (year + 1 : Nat)

/-- The days of the first months of a year. -/
def daysThroughMonth (year : Int) : Nat → Nat
  | 0 => 0
  | month + 1 => daysThroughMonth year month + daysInMonth year (month + 1)

/-- A date that there is in the calendar, which begins with year 1. -/
structure IsValid (d : Date) : Prop where
  year : 1 ≤ d.year
  month : 1 ≤ d.month ∧ d.month ≤ 12
  day : 1 ≤ d.day ∧ d.day ≤ daysInMonth d.year d.month

instance (d : Date) : Decidable d.IsValid :=
  decidable_of_iff (1 ≤ d.year ∧ (1 ≤ d.month ∧ d.month ≤ 12) ∧
      1 ≤ d.day ∧ d.day ≤ daysInMonth d.year d.month)
    ⟨fun ⟨hyear, hmonth, hday⟩ => ⟨hyear, hmonth, hday⟩,
      fun ⟨hyear, hmonth, hday⟩ => ⟨hyear, hmonth, hday⟩⟩

/-- The number of the day, counted through years, months and days. -/
def ordinal (d : Date) : Nat :=
  daysThroughYear (d.year.toNat - 1) + daysThroughMonth d.year (d.month - 1) + d.day

/-- The day that day numbers are counted from. -/
def epoch : Date := ⟨1970, 1, 1⟩

/-! ## Counting by formula -/

/-- The days that a year has more than 365. -/
def leapDay (year : Int) : Int := if isLeapYear year then 1 else 0

/-- The leap days of the years up to a year. -/
def leapDays (year : Int) : Int := year / 4 - year / 100 + year / 400

theorem isLeapYear_iff (year : Int) :
    isLeapYear year = true ↔ year % 4 = 0 ∧ (year % 100 ≠ 0 ∨ year % 400 = 0) := by
  simp [isLeapYear]

theorem leapDays_succ (year : Int) : leapDays (year + 1) = leapDays year + leapDay (year + 1) := by
  have hleap := isLeapYear_iff (year + 1)
  unfold leapDays leapDay
  by_cases h : isLeapYear (year + 1) = true
  · rw [if_pos h]
    have := hleap.1 h
    omega
  · rw [if_neg h]
    rw [hleap] at h
    omega

theorem daysThroughYear_eq (year : Nat) :
    (daysThroughYear year : Int) = 365 * year + leapDays year := by
  induction year with
  | zero => rfl
  | succ year ih =>
      have hdays : (daysInYear (year + 1 : Nat) : Int) = 365 + leapDay (year + 1 : Nat) := by
        unfold daysInYear leapDay
        split <;> rfl
      rw [daysThroughYear, Int.natCast_add, ih, hdays, Int.natCast_add, Int.natCast_one,
        leapDays_succ]
      omega

/-- From March on, months follow each other in a pattern of five. -/
theorem daysThroughMonth_eq (year : Int) {month : Nat} (h : month < 12) :
    (daysThroughMonth year month : Int) =
      if month < 2 then 31 * (month : Int)
      else (153 * ((month : Int) - 2) + 2) / 5 + 59 + leapDay year := by
  unfold leapDay
  cases hleap : isLeapYear year <;> interval_cases month <;>
    simp [daysThroughMonth, daysInMonth, hleap]

/-- The leap days of a cycle are those of its years. -/
theorem cycle_days (year : Int) :
    year / 400 * 146097 + (year % 400 * 365 + year % 400 / 4 - year % 400 / 100) =
      365 * year + leapDays year := by
  have h4 : year % 400 / 4 = year / 4 - 100 * (year / 400) := by omega
  have h100 : year % 400 / 100 = year / 100 - 4 * (year / 400) := by omega
  unfold leapDays
  rw [h4, h100]
  omega

theorem dayNumber_of_march {year : Int} {month day : Nat} (hmonth : 3 ≤ month) :
    dayNumber ⟨year, month, day⟩ = 365 * year + leapDays year +
      ((153 * ((month : Int) - 3) + 2) / 5 + day - 1) - epochOffset := by
  have hnot : ¬ month ≤ 2 := by omega
  rw [← cycle_days year]
  simp only [dayNumber, if_neg hnot]
  omega

theorem dayNumber_of_january {year : Int} {month day : Nat} (hmonth : month ≤ 2) :
    dayNumber ⟨year, month, day⟩ = 365 * (year - 1) + leapDays (year - 1) +
      ((153 * ((month : Int) + 9) + 2) / 5 + day - 1) - epochOffset := by
  rw [← cycle_days (year - 1)]
  simp only [dayNumber, if_pos hmonth]
  omega

/-- **Counting through years and months** comes to the number of the day. -/
theorem ordinal_eq {d : Date} (hyear : 1 ≤ d.year) (hmonth : 1 ≤ d.month ∧ d.month ≤ 12) :
    (d.ordinal : Int) = d.dayNumber + 719163 := by
  obtain ⟨year, month, day⟩ := d
  dsimp only at hyear hmonth
  have hyears := daysThroughYear_eq (year.toNat - 1)
  have hmonths := daysThroughMonth_eq year (show month - 1 < 12 by omega)
  have hlastYear : ((year.toNat - 1 : Nat) : Int) = year - 1 := by omega
  have hlastMonth : ((month - 1 : Nat) : Int) = month - 1 := by omega
  rw [hlastYear] at hyears
  rw [hlastMonth] at hmonths
  simp only [ordinal, Int.natCast_add, hyears, hmonths]
  by_cases h : month ≤ 2
  · rw [dayNumber_of_january h, if_pos (by omega), epochOffset]
    omega
  · have hsucc := leapDays_succ (year - 1)
    rw [Int.sub_add_cancel] at hsucc
    rw [dayNumber_of_march (by omega), if_neg (by omega), hsucc, epochOffset]
    omega

/-! ## The year of a day -/

/-- The day of a cycle that a year of the cycle begins with; years begin in March. -/
def yearStart (year : Int) : Int := 365 * year + year / 4 - year / 100

/-- The year that the day of a cycle lies in. -/
def yearOfCycle (day : Int) : Int := (day - day / 1460 + day / 36524 - day / 146096) / 365

/-- The place of a day in its cycle, which is not the last day of it. -/
structure CycleDay (day century fours rest : Int) : Prop where
  inCycle : 0 ≤ century ∧ century ≤ 3
  inCentury : 25 * century ≤ fours ∧ fours ≤ 25 * century + 24
  inFours : 0 ≤ rest ∧ rest ≤ 1460
  /-- The last four years of a century have no leap day. -/
  lastFours : fours = 25 * century + 24 → rest ≤ 1459
  eq : day = 1461 * fours + rest - century

theorem exists_cycleDay {day : Int} (hlow : 0 ≤ day) (hhigh : day < 146096) :
    ∃ century fours rest, CycleDay day century fours rest := by
  obtain ⟨century, hcentury⟩ : ∃ century, century = day / 36524 := ⟨_, rfl⟩
  obtain ⟨fours, hfours⟩ : ∃ fours, fours = (day - 36524 * century) / 1461 := ⟨_, rfl⟩
  refine ⟨century, 25 * century + fours, day - 36524 * century - 1461 * fours,
    ?_, ?_, ?_, ?_, ?_⟩ <;> omega

namespace CycleDay

variable {day century fours rest : Int} (h : CycleDay day century fours rest)

include h

theorem div_1460 :
    day / 1460 = fours ∧ rest ≤ 1459 ∨ day / 1460 = fours + 1 ∧ 1364 ≤ rest := by
  obtain ⟨hcycle, hcentury, hfours, _, rfl⟩ := h
  have hpassed : 0 ≤ fours - century ∧ fours - century ≤ 96 := by omega
  have hdiv : (1461 * fours + rest - century) / 1460 = fours + (fours - century + rest) / 1460 := by
    omega
  rw [hdiv]
  omega

theorem div_36524 : day / 36524 = century := by
  obtain ⟨hcycle, hcentury, hfours, hlast, rfl⟩ := h
  omega

/-- Four years are years of 365 days, and one more day that falls to the last. -/
theorem year_eq : yearOfCycle day = 4 * fours + min (rest / 365) 3 := by
  have hcycle : day / 146096 = 0 := by
    obtain ⟨hcycle, hcentury, hfours, _, rfl⟩ := h
    omega
  have hday := h.eq
  have hrest := h.inFours
  rw [yearOfCycle, h.div_36524, hcycle]
  rcases h.div_1460 with ⟨hdiv, hrest'⟩ | ⟨hdiv, hrest'⟩
  · rw [hdiv]
    omega
  · rw [hdiv]
    omega

theorem yearStart_eq {place : Int} (hplace : 0 ≤ place ∧ place ≤ 3) :
    yearStart (4 * fours + place) = 1461 * fours + 365 * place - century := by
  obtain ⟨hcycle, hcentury, _, _, _⟩ := h
  have h4 : (4 * fours + place) / 4 = fours := by omega
  have h100 : (4 * fours + place) / 100 = century := by omega
  rw [yearStart, h4, h100]
  omega

end CycleDay

/-- The day of a cycle lies in a year, so many days after its first. -/
structure Lies (day year dayOfYear : Int) : Prop where
  eq : day = yearStart year + dayOfYear
  inCycle : 0 ≤ year ∧ year ≤ 399
  inYear : 0 ≤ dayOfYear ∧ dayOfYear ≤ 365
  /-- The 366th day of a year that begins in March is a 29th of February. -/
  leap : dayOfYear = 365 → (year + 1) % 4 = 0 ∧ ((year + 1) % 100 ≠ 0 ∨ (year + 1) % 400 = 0)

/-- **The division finds the year** that a day of a cycle lies in. -/
theorem lies_yearOfCycle {day : Int} (hlow : 0 ≤ day) (hhigh : day ≤ 146096) :
    Lies day (yearOfCycle day) (day - yearStart (yearOfCycle day)) := by
  by_cases hlast : day = 146096
  · subst hlast
    exact ⟨by decide, by decide, by decide, by decide⟩
  · obtain ⟨century, fours, rest, h⟩ := exists_cycleDay hlow (by omega)
    have hrest := h.inFours
    have hstart : yearStart (4 * fours + min (rest / 365) 3) =
        1461 * fours + 365 * min (rest / 365) 3 - century := h.yearStart_eq (by omega)
    rw [h.year_eq]
    obtain ⟨hcycle, hcentury, _, hlastFours, rfl⟩ := h
    refine ⟨by omega, by omega, by omega, fun h365 => ?_⟩
    obtain rfl : rest = 1460 := by omega
    have hnext : 4 * fours + min (1460 / 365) 3 + 1 = 4 * (fours + 1) := by omega
    rw [hnext]
    exact ⟨by omega, .inl fun h100 => by omega⟩

/-! ## The date of a day -/

/-- The date so many days after the first of March of a year. -/
def ofMarch (year dayOfYear : Int) : Date :=
  let month := (5 * dayOfYear + 2) / 153
  { year := if month < 10 then year else year + 1
    month := (if month < 10 then month + 3 else month - 9).toNat
    day := (dayOfYear - (153 * month + 2) / 5 + 1).toNat }

section March

variable {year dayOfYear : Int} (hday : 0 ≤ dayOfYear ∧ dayOfYear ≤ 365)

include hday

theorem dayNumber_ofMarch :
    (ofMarch year dayOfYear).dayNumber = 365 * year + leapDays year + dayOfYear - epochOffset := by
  unfold ofMarch
  dsimp only
  by_cases h : (5 * dayOfYear + 2) / 153 < 10
  · rw [if_pos h, if_pos h, dayNumber_of_march (by omega)]
    omega
  · rw [if_neg h, if_neg h, dayNumber_of_january (by omega), Int.add_sub_cancel]
    omega

/-- January begins 306 days after the first of March. -/
theorem year_ofMarch :
    (ofMarch year dayOfYear).year = if dayOfYear < 306 then year else year + 1 := by
  unfold ofMarch
  dsimp only
  by_cases h : dayOfYear < 306
  · rw [if_pos (by omega), if_pos h]
  · rw [if_neg (by omega), if_neg h]

theorem month_ofMarch :
    1 ≤ (ofMarch year dayOfYear).month ∧ (ofMarch year dayOfYear).month ≤ 12 := by
  unfold ofMarch
  dsimp only
  split <;> omega

theorem day_ofMarch (hleap : dayOfYear = 365 → isLeapYear (year + 1) = true) :
    1 ≤ (ofMarch year dayOfYear).day ∧ (ofMarch year dayOfYear).day ≤
      daysInMonth (ofMarch year dayOfYear).year (ofMarch year dayOfYear).month := by
  obtain ⟨month, hmonth⟩ : ∃ month, month = (5 * dayOfYear + 2) / 153 := ⟨_, rfl⟩
  have hlow : 0 ≤ month := by omega
  have hhigh : month ≤ 11 := by omega
  unfold ofMarch
  rw [← hmonth]
  by_cases hfebruary : month = 11
  · subst hfebruary
    cases h : isLeapYear (year + 1) with
    | true =>
        simp [daysInMonth, h]
        omega
    | false =>
        have hnot : dayOfYear ≠ 365 := fun h365 => by simp [hleap h365] at h
        simp [daysInMonth, h]
        omega
  · interval_cases month <;> simp [daysInMonth] <;> omega

end March

/-- The date of a day, in a year that begins in March. -/
theorem exists_ofMarch (n : Int) : ∃ year dayOfYear, ofDayNumber n = ofMarch year dayOfYear ∧
    n + epochOffset = 365 * year + leapDays year + dayOfYear ∧
    (0 ≤ dayOfYear ∧ dayOfYear ≤ 365) ∧ (dayOfYear = 365 → isLeapYear (year + 1) = true) := by
  obtain ⟨cycle, hcycle⟩ : ∃ cycle, cycle = (n + epochOffset) / 146097 := ⟨_, rfl⟩
  obtain ⟨day, hday⟩ : ∃ day, day = (n + epochOffset) % 146097 := ⟨_, rfl⟩
  have hlies := lies_yearOfCycle (show 0 ≤ day by omega) (by omega)
  have hdate : ofDayNumber n =
      ofMarch (yearOfCycle day + cycle * 400) (day - yearStart (yearOfCycle day)) := by
    rw [hcycle, hday]
    rfl
  generalize yearOfCycle day = year at hlies hdate
  generalize day - yearStart year = dayOfYear at hlies hdate
  obtain ⟨heq, hinCycle, hinYear, hleap⟩ := hlies
  refine ⟨_, _, hdate, ?_, hinYear, fun h365 => ?_⟩
  · have hdays := cycle_days (year + cycle * 400)
    have hdiv : (year + cycle * 400) / 400 = cycle := by omega
    have hmod : (year + cycle * 400) % 400 = year := by omega
    rw [hdiv, hmod] at hdays
    unfold yearStart at heq
    omega
  · rw [isLeapYear_iff]
    have := hleap h365
    omega

/-- **A date has the number that it was found from.** -/
theorem dayNumber_ofDayNumber (n : Int) : (ofDayNumber n).dayNumber = n := by
  obtain ⟨year, dayOfYear, hdate, hn, hday, -⟩ := exists_ofMarch n
  rw [hdate, dayNumber_ofMarch hday]
  omega

/-- **The years 1 to 9999** lie between the first days of the years 1 and 10000. -/
theorem year_ofDayNumber_iff (n : Int) :
    (1 ≤ (ofDayNumber n).year ↔ -719162 ≤ n) ∧ ((ofDayNumber n).year ≤ 9999 ↔ n < 2932897) := by
  obtain ⟨year, dayOfYear, hdate, hn, hday, -⟩ := exists_ofMarch n
  rw [hdate, year_ofMarch hday]
  unfold epochOffset leapDays at hn
  split <;> omega

/-- **What is found is a date of the calendar**, from year 1 on. -/
theorem isValid_ofDayNumber {n : Int} (h : 1 ≤ (ofDayNumber n).year) : (ofDayNumber n).IsValid := by
  obtain ⟨year, dayOfYear, hdate, -, hday, hleap⟩ := exists_ofMarch n
  rw [hdate] at h ⊢
  exact ⟨h, month_ofMarch hday, day_ofMarch hday hleap⟩

theorem ordinal_epoch : (epoch.ordinal : Int) = 719163 := by
  rw [ordinal_eq (by decide) (by decide)]
  decide

/-- **Counting the days of a date** gives the number that it was found from. -/
theorem ordinal_ofDayNumber {n : Int} (h : 1 ≤ (ofDayNumber n).year) :
    ((ofDayNumber n).ordinal : Int) - epoch.ordinal = n := by
  rw [ordinal_eq h (isValid_ofDayNumber h).month, dayNumber_ofDayNumber, ordinal_epoch]
  omega

/-! ## Instants of the calendar -/

/-- The milliseconds from the epoch to a minute of a day, in UTC. -/
def instantAt (d : Date) (hour minute : Nat) : Int :=
  (((d.ordinal : Int) - epoch.ordinal) * 1440 + hour * 60 + minute) * 60000

end Date

/-- The first instant of a year. -/
def yearBegins (year : Int) : Int := Date.instantAt ⟨year, 1, 1⟩ 0 0

theorem yearBegins_eq {year : Int} (h : 1 ≤ year) :
    yearBegins year = Date.dayNumber ⟨year, 1, 1⟩ * 86400000 := by
  rw [yearBegins, Date.instantAt, Date.ordinal_eq h (show 1 ≤ 1 ∧ 1 ≤ 12 by decide),
    Date.ordinal_epoch]
  omega

/-- **An instant lies in the years 1 to 9999** if it is not before the first of them and
before the next. -/
theorem yearAt_iff {millis : Int} : 1 ≤ yearAt millis ∧ yearAt millis ≤ 9999 ↔
    yearBegins 1 ≤ millis ∧ millis < yearBegins 10000 := by
  have hfirst : Date.dayNumber ⟨1, 1, 1⟩ = -719162 := by decide
  have hlast : Date.dayNumber ⟨10000, 1, 1⟩ = 2932897 := by decide
  obtain ⟨hlow, hhigh⟩ := Date.year_ofDayNumber_iff (millis / 86400000)
  rw [yearAt, hlow, hhigh, yearBegins_eq (by decide), yearBegins_eq (by decide), hfirst, hlast]
  omega

end PipeQuery
