import PipeQuery.Datum.Yaml.Reader
import PipeQuery.Platform.Basic
import PipeQuery.Text.Identifier

/-!
# A platform

The platform of the command line.  It has six time zones, whose summer time
follows the rules in force from 1999 on; before the first standard time, clocks
showed the local mean time of the city.  It knows the names of the letters from
A to Z, and nests groups up to 490 deep.
-/

namespace PipeQuery.Platform.Standard

/-! ## Time zones -/

/-- The first Sunday of a month. -/
def firstSunday (year : Int) (month : Nat) : Int :=
  let first := Date.dayNumber ⟨year, month, 1⟩
  first + (6 - Date.weekday first)

/-- The last Sunday of a month. -/
def lastSunday (year : Int) (month : Nat) : Int :=
  let last := Date.dayNumber ⟨year, month, Date.daysInMonth year month⟩
  last - (Date.weekday last + 1) % 7

/-- The seconds from the epoch of an hour of a day. -/
def atHour (day : Int) (hour : Int) : Int := day * 86400 + hour * 3600

/-- Summer time of the European Union: from the last Sunday of March to the
last Sunday of October, at one o'clock UTC. -/
def europeanSummer (year seconds : Int) : Bool :=
  atHour (lastSunday year 3) 1 ≤ seconds && seconds < atHour (lastSunday year 10) 1

/-- Summer time of the United States at a standard offset of five hours, at
two o'clock local time: until 2006 from the first Sunday of April to the last
Sunday of October, then from the second Sunday of March to the first Sunday of
November. -/
def americanSummer (year seconds : Int) : Bool :=
  if year < 2007 then
    atHour (firstSunday year 4) 7 ≤ seconds && seconds < atHour (lastSunday year 10) 6
  else
    atHour (firstSunday year 3 + 7) 7 ≤ seconds && seconds < atHour (firstSunday year 11) 6

/-- A zone whose offset depends on the year as well. -/
def zoneOf (offset : Int → Int → Int) : Zone :=
  ⟨fun seconds => offset (Date.ofDayNumber (seconds / 86400)).year seconds⟩

/-- The zones by name. -/
def zones : List (String × Zone) :=
  [("UTC", .utc), ("Asia/Tokyo", ⟨fun _ => 9 * 3600⟩), ("Asia/Kolkata", ⟨fun _ => 5 * 3600 + 1800⟩),
    ("Asia/Kathmandu", ⟨fun _ => 5 * 3600 + 2700⟩),
    ("Europe/Berlin", zoneOf fun year seconds =>
      if year < 1893 then 3208 else if europeanSummer year seconds then 7200 else 3600),
    ("America/New_York", zoneOf fun year seconds =>
      if year < 1883 then -17762
      else if americanSummer year seconds then -4 * 3600 else -5 * 3600)]

/-! ## Characters -/

/-- The letter with a name such as `LATIN SMALL LETTER A`, in any case. -/
def letter? (name : String) : Option Char :=
  match (Text.splitOn ' ' name.toList).map fun word => word.map Char.toUpper with
  | [['L', 'A', 'T', 'I', 'N'], size, ['L', 'E', 'T', 'T', 'E', 'R'], [c]] =>
    if !c.isUpper then none
    else if size == "CAPITAL".toList then some c
    else if size == "SMALL".toList then some c.toLower
    else none
  | _ => none

/-! ## The stack -/

/-- The groups of a pattern need more than this room to be nested.  What stands
behind a backslash opens and closes none. -/
def lacksRoom (escaped : Bool) (room : Nat) : List Char → Bool
  | [] => false
  | c :: rest =>
    if escaped then lacksRoom false room rest
    else if c == '\\' then lacksRoom true room rest
    else if c == ')' then lacksRoom false (room + 1) rest
    else if c == '(' then
      match room with
      | 0 => true
      | room + 1 => lacksRoom false room rest
    else lacksRoom false room rest

/-- Where no group opens, no room is needed. -/
theorem lacksRoom_of_flat {cs : List Char} (flat : '(' ∉ cs) (escaped : Bool) (room : Nat) :
    lacksRoom escaped room cs = false := by
  induction cs generalizing escaped room with
  | nil => rfl
  | cons c rest ih =>
      obtain ⟨hc, hrest⟩ : c ≠ '(' ∧ '(' ∉ rest := by
        simpa [eq_comm] using flat
      simp only [lacksRoom, ih hrest, beq_iff_eq, if_neg hc, ite_self]

/-- The number of groups that can be nested. -/
def groupRoom : Nat := 490

end PipeQuery.Platform.Standard

namespace PipeQuery

instance Platform.standard : Platform where
  zone? name := Platform.Standard.zones.lookup name
  zone?_utc := rfl
  character? := Platform.Standard.letter?
  outgrownBy source :=
    Platform.Standard.lacksRoom false Platform.Standard.groupRoom source.toList
  outgrownBy_of_flat flat := Platform.Standard.lacksRoom_of_flat flat ..
  readYaml := Yaml.read

end PipeQuery
