import PipeQuery.Number.Shown
import PipeQuery.Time.Calendar
import PipeQuery.Text.Quoted

/-!
# Timestamps

A timestamp is a wall-clock time with an offset from UTC, both counted in
microseconds.  It is kept and printed with the offset it came with; what
orders it is its instant, in whole milliseconds (`Timestamp.millis`).
-/

namespace PipeQuery

/-- Why a time is refused. -/
inductive TimeFault where
  /-- Not in the form of a date or a date with a time. -/
  | malformed (text : String)
  | yearOutOfRange (year : Int)
  | monthOutOfRange
  | dayOutOfRange
  | hourOutOfRange
  | minuteOutOfRange
  | secondOutOfRange
  /-- An offset of a day or more, in microseconds. -/
  | offsetTooLarge (micros : Int)
  /-- NaN seconds. -/
  | notANumber
  /-- More seconds than the clock counts. -/
  | beyondClock
  /-- A year that does not fit the calendar's own range. -/
  | beyondCalendar
  /-- A shift past the first or the last date. -/
  | dateOverflow
  /-- A quotient beyond all binary64 numbers. -/
  | quotientOverflow
  deriving DecidableEq

/-- Wall-clock microseconds from 1970-01-01T00:00:00, and the offset of that
clock from UTC. -/
structure Timestamp where
  wall : Int
  offset : Int
  deriving DecidableEq, Inhabited

/-- The microseconds of a second. -/
def microsPerSecond : Int := 1000000

/-- The microseconds of a day. -/
def microsPerDay : Int := 86400 * microsPerSecond

namespace Timestamp

/-- Microseconds from the epoch to the instant. -/
def instant (t : Timestamp) : Int := t.wall - t.offset

/-- The instant in milliseconds: the seconds as a binary64 number, times 1000,
cut toward zero. -/
def millis (t : Timestamp) : Int :=
  ((Binary64.ofRatio t.instant 1000000 * Binary64.ofInt 1000).truncate?).getD 0

/-- The date on the clock of the timestamp. -/
def date (t : Timestamp) : Date := Date.ofDayNumber (t.wall / microsPerDay)

/-- Microseconds since midnight. -/
def microOfDay (t : Timestamp) : Nat := (t.wall % microsPerDay).toNat

/-- `n` in at least `width` digits, filled up with zeros. -/
def padded (width n : Nat) : String :=
  let digits := Nat.toDigits 10 n
  String.ofList (List.replicate (width - digits.length) '0' ++ digits)

/-- Hours and minutes, and seconds and microseconds as far as they are given. -/
def shownClock (micros : Nat) (withSeconds : Bool) : String :=
  let seconds := micros / 1000000
  let rest := micros % 1000000
  padded 2 (seconds / 3600) ++ ":" ++ padded 2 (seconds / 60 % 60) ++
    (if withSeconds || seconds % 60 != 0 || rest != 0 then ":" ++ padded 2 (seconds % 60) else "") ++
    (if rest != 0 then "." ++ padded 6 rest else "")

/-- The text of a date. -/
def shownDate (d : Date) : String :=
  padded 4 d.year.toNat ++ "-" ++ padded 2 d.month ++ "-" ++ padded 2 d.day

/-- Date and time, with `separator` between them. -/
def shownWall (separator : String) (t : Timestamp) : String :=
  shownDate t.date ++ separator ++ shownClock t.microOfDay true

/-- The text of an offset. -/
def shownOffset (offset : Int) : String :=
  (if offset < 0 then "-" else "+") ++ shownClock offset.natAbs false

/-- Date, time and offset. -/
def shown (t : Timestamp) : String := shownWall "T" t ++ shownOffset t.offset

/-- The same with a space between date and time. -/
def shownSpaced (t : Timestamp) : String := shownWall " " t ++ shownOffset t.offset

/-- The seconds that the clock can count: 64 bits with a sign. -/
def clockLimit : Int := 9223372036854775808

/-- The years that the calendar counts: 32 bits, from 1900. -/
def calendarLimit : Int := 2147483648

/-- The UTC timestamp so many seconds from the epoch, rounded to the
microsecond; a half goes to the even one. -/
def ofSeconds (seconds : Binary64) : Except TimeFault Timestamp :=
  match seconds with
  | .nan => .error .notANumber
  | .infinite _ => .error .beyondClock
  | .finite .. =>
    let whole := seconds.truncate?.getD 0
    let micros := ((seconds.fractionalPart * Binary64.ofInt 1000000).roundEven?).getD 0
    if whole < -clockLimit ∨ clockLimit ≤ whole then .error .beyondClock
    else
      let wall := whole * microsPerSecond + micros
      let year := (Date.ofDayNumber (wall / microsPerDay)).year
      if year - 1900 < -calendarLimit ∨ calendarLimit ≤ year - 1900 then .error .beyondCalendar
      else if Date.yearInRange year then .ok ⟨wall, 0⟩
      else .error (.yearOutOfRange (Int.bmod year 4294967296))

/-- The UTC timestamp so many milliseconds from the epoch. -/
def ofMillis (millis : Int) : Except TimeFault Timestamp :=
  let seconds := Binary64.ofRatio millis 1000
  if seconds.isFinite then ofSeconds seconds else .error .quotientOverflow

end Timestamp

/-- A span of time in the words of days, seconds and microseconds. -/
def shownSpan (micros : Int) : String :=
  let days := micros / microsPerDay
  let seconds := micros % microsPerDay / microsPerSecond
  let rest := micros % microsPerSecond
  let parts :=
    (if days = 0 then [] else ["days=" ++ shownInt days]) ++
    (if seconds = 0 then [] else ["seconds=" ++ shownInt seconds]) ++
    (if rest = 0 then [] else ["microseconds=" ++ shownInt rest])
  "datetime.timedelta(" ++ (if parts.isEmpty then "0" else String.intercalate ", " parts) ++ ")"

/-- What is said of a refused time. -/
def TimeFault.message : TimeFault → String
  | malformed text => "Invalid isoformat string: " ++ Text.quoted text
  | yearOutOfRange year => "year " ++ shownInt year ++ " is out of range"
  | monthOutOfRange => "month must be in 1..12"
  | dayOutOfRange => "day is out of range for month"
  | hourOutOfRange => "hour must be in 0..23"
  | minuteOutOfRange => "minute must be in 0..59"
  | secondOutOfRange => "second must be in 0..59"
  | offsetTooLarge micros =>
    "offset must be a timedelta strictly between -timedelta(hours=24) and timedelta(hours=24), not "
      ++ shownSpan micros ++ "."
  | notANumber => "Invalid value NaN (not a number)"
  | beyondClock => "timestamp out of range for platform time_t"
  | beyondCalendar => "[Errno 75] Value too large for defined data type"
  | dateOverflow => "date value out of range"
  | quotientOverflow => "integer division result too large for a float"

end PipeQuery
