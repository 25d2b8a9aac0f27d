import PipeQuery.Time.Timestamp

/-!
# Reading ISO 8601

A date is `YYYY-MM-DD` or `YYYYMMDD`, or the year with a week and a weekday;
any one character may stand between date and time.  A time has hours, minutes
and seconds with or without colons, a fraction behind the last of them, and an
offset or `Z`.  The readers work on bytes: a byte past the end reads as zero,
and a zero byte ends a time as the end of the text does.
-/

namespace PipeQuery.Iso

/-- The byte of an ASCII character. -/
def code (c : Char) : Nat := c.toNat

/-- An ASCII digit. -/
def isDigit (b : Nat) : Bool := 0x30 ≤ b && b ≤ 0x39

/-- Reads exactly `n` digits. -/
def digits? : Nat → Nat → List Nat → Option (Nat × List Nat)
  | 0, value, rest => some (value, rest)
  | _ + 1, _, [] => none
  | n + 1, value, b :: rest =>
    if isDigit b then digits? n (10 * value + (b - 0x30)) rest else none

/-- Hours, minutes, seconds and microseconds, and whether nothing follows. -/
structure Clock where
  hour : Nat := 0
  minute : Nat := 0
  second : Nat := 0
  micros : Nat := 0
  clean : Bool := true
  deriving DecidableEq

/-- Sets one of the three first parts of a time. -/
def Clock.set (clock : Clock) (part value : Nat) : Clock :=
  match part with
  | 0 => { clock with hour := value }
  | 1 => { clock with minute := value }
  | _ => { clock with second := value }

/-- The text ends here. -/
def atEnd : List Nat → Bool
  | [] => true
  | b :: _ => b == 0

/-- Reads a fraction of up to six digits; further digits are passed over. -/
def fraction? (clock : Clock) (rest : List Nat) : Option Clock :=
  let places := min 6 rest.length
  (digits? places 0 rest).map fun r =>
    { clock with
      micros := r.1 * Nat.pow 10 (6 - places)
      clean := atEnd (r.2.dropWhile isDigit) }

/-- Reads the parts of a time from the one numbered `part` on; `left` counts
the parts that may still come, and `colons` says whether they stand between
colons. -/
def clockFrom? : Nat → Nat → Bool → Clock → List Nat → Option Clock
  | 0, _, _, clock, rest => fraction? clock rest
  | left + 1, part, colons, clock, rest =>
    match digits? 2 0 rest with
    | none => none
    | some (value, rest) =>
      let clock := clock.set part value
      match rest with
      | [] => some clock
      | [b] => some { clock with clean := b == 0 }
      | b :: more =>
        let colons := if part = 0 then b == code ':' else colons
        if colons && b == code ':' then clockFrom? left (part + 1) colons clock more
        else if b == code '.' || b == code ',' then fraction? clock more
        else if colons then none
        else clockFrom? left (part + 1) colons clock rest

/-- The time on a clock, from hours to fractions of seconds. -/
def clock? (bytes : List Nat) : Option Clock := clockFrom? 3 0 true {} bytes

/-- Starts an offset. -/
def startsOffset (b : Nat) : Bool := b == code '+' || b == code '-' || b == code 'Z'

/-- A time of day with its offset in microseconds, if it has one. -/
def time? (bytes : List Nat) : Option (Clock × Option Int) :=
  match clock? (bytes.takeWhile fun b => !startsOffset b), bytes.dropWhile fun b => !startsOffset b with
  | none, _ => none
  | some clock, [] => if clock.clean then some (clock, none) else none
  | some clock, b :: rest =>
    if b == code 'Z' then (if atEnd rest then some (clock, some 0) else none)
    else
      match clock? rest with
      | none => none
      | some offset =>
        if offset.clean then
          let seconds : Int := offset.hour * 3600 + offset.minute * 60 + offset.second
          let micros := seconds * microsPerSecond + offset.micros
          -- an offset of no whole second is UTC
          some (clock, some (if seconds = 0 then 0
            else if b == code '-' then -micros else micros))
        else none

/-! ## Dates -/

/-- The date of a weekday of a week. -/
def weekDate? (year week day : Nat) : Option (Except TimeFault Date) :=
  if week = 0 ∨ Date.weeksInYear year < week ∨ day = 0 ∨ 7 < day then none
  -- weeks are counted from year 1 on
  else if year = 0 then some (.error .monthOutOfRange)
  else some (.ok (Date.ofDayNumber (Date.firstMonday year + (week - 1) * 7 + (day - 1))))

/-- Where the date ends. -/
def dateLength (bytes : List Nat) : Nat :=
  let at_ (i : Nat) : Nat := bytes.getD i 0
  let length := bytes.length
  if length = 7 then 7
  else if at_ 4 == code '-' then
    if at_ 5 == code 'W' then
      if 8 < length && at_ 8 == code '-' then
        (if 10 < length && isDigit (at_ 10) then 8 else 10)
      else 8
    else 10
  else if at_ 4 == code 'W' then
    let stop := 7 + ((bytes.drop 7).takeWhile isDigit).length
    if stop < 9 then stop else if stop % 2 = 0 then 7 else 8
  else 8

/-- The bytes after `expected`. -/
def skip? (expected : Char) : List Nat → Option (List Nat)
  | [] => none
  | b :: rest => if b == code expected then some rest else none

/-- A date that should take up `length` bytes. -/
def date? (length : Nat) (bytes : List Nat) : Option (Except TimeFault Date) := do
  let (year, rest) ← digits? 4 0 bytes
  let dashes := rest.head? == some (code '-')
  let rest := if dashes then rest.drop 1 else rest
  if rest.head? == some (code 'W') then
    let (week, rest) ← digits? 2 0 (rest.drop 1)
    if bytes.length - rest.length < length then
      let rest ← if dashes then skip? '-' rest else some rest
      let (day, _) ← digits? 1 0 rest
      weekDate? year week day
    else weekDate? year week 1
  else
    let (month, rest) ← digits? 2 0 rest
    let rest ← if dashes then skip? '-' rest else some rest
    let (day, _) ← digits? 2 0 rest
    return .ok ⟨year, month, day⟩

/-- The number of bytes of the character that starts with byte `b`. -/
def charLength (b : Nat) : Nat :=
  if b < 0x80 then 1
  else if b / 16 = 0xe then 3
  else if b / 16 = 0xf then 4
  else 2

/-- A date with the time behind it. -/
def dateTime? (bytes : List Nat) :
    Option (Except TimeFault Date × Clock × Option Int) :=
  let length := dateLength bytes
  match date? length bytes with
  | none => none
  | some date =>
    match bytes.drop length with
    | [] => some (date, {}, none)
    | b :: _ => (time? (bytes.drop (length + charLength b))).map fun r => (date, r.1, r.2)

/-- Checks the parts of a time one after the other. -/
def check (date : Date) (clock : Clock) : Except TimeFault Unit :=
  if !Date.yearInRange date.year then .error (.yearOutOfRange date.year)
  else if date.month = 0 ∨ 12 < date.month then .error .monthOutOfRange
  else if date.day = 0 ∨ Date.daysInMonth date.year date.month < date.day then
    .error .dayOutOfRange
  else if 23 < clock.hour then .error .hourOutOfRange
  else if 59 < clock.minute then .error .minuteOutOfRange
  else if 59 < clock.second then .error .secondOutOfRange
  else .ok ()

/-- Reads a date or a date with a time; the offset is what the text gives. -/
def readTime (text : String) : Except TimeFault (Int × Option Int) :=
  let bytes := text.toUTF8.data.toList.map UInt8.toNat
  match dateTime? bytes with
  | none => .error (.malformed text)
  | some (date, clock, offset) => do
    match offset with
    | some micros =>
      if micros ≤ -microsPerDay ∨ microsPerDay ≤ micros then throw (.offsetTooLarge micros)
    | none => pure ()
    let date ← date
    check date clock
    let seconds : Int := clock.hour * 3600 + clock.minute * 60 + clock.second
    return (date.dayNumber * microsPerDay + seconds * microsPerSecond + clock.micros, offset)

end PipeQuery.Iso

namespace PipeQuery

/-- Reads a timestamp; without an offset it is UTC. -/
def Timestamp.read (text : String) : Except TimeFault Timestamp :=
  (Iso.readTime text).map fun r => ⟨r.1, r.2.getD 0⟩

end PipeQuery
