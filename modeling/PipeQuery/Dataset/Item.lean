import PipeQuery.Datum.Basic
import PipeQuery.Fault
import PipeQuery.Record
import PipeQuery.Time.Iso
import PipeQuery.Text.Digits

/-!
# Records from data

How an item of a data file becomes a record: one of its keys holds the text,
`timestamp` and `source` say when and where, and all others are fields.
-/

namespace PipeQuery

/-! ## Entries -/

namespace Datum

/-- The two parts of a pair. -/
def pairParts (index : Nat) : List Datum → Except Fault (Datum × Datum)
  | [key, value] => if key.isKey then .ok (key, value) else .error (.shape .wrongType)
  | parts => .error (.pairLength index parts.length)

/-- A value as a pair: a list of two, a text of two characters, or a mapping of
two keys. -/
def toPair (index : Nat) : Datum → Except Fault (Datum × Datum)
  | list items => pairParts index items
  | text s => pairParts index (s.toList.map fun c => text (String.singleton c))
  | mapping entries => pairParts index (entries.map Prod.fst)
  | _ => .error (.shape .wrongType)

/-- Values as pairs, numbered from `index`. -/
def toPairs (index : Nat) : List Datum → Except Fault (List (Datum × Datum))
  | [] => .ok []
  | item :: rest => do
    let pair ← item.toPair index
    return pair :: (← toPairs (index + 1) rest)

/-- A value as entries: a mapping, or values that are pairs. -/
def toEntries : Datum → Except Fault (List (Datum × Datum))
  | mapping entries => .ok entries
  | list items => (toPairs 0 items).map settle
  | text s => (toPairs 0 (s.toList.map fun c => text (String.singleton c))).map settle
  | _ => .error (.shape .wrongType)

/-- The entries without a key. -/
def without (key : String) (entries : List (Datum × Datum)) : List (Datum × Datum) :=
  entries.filter fun e => e.1.text? != some key

end Datum

/-! ## Times -/

/-- A time on a wall clock, and the offset of that clock if it is known. -/
abbrev ClockTime := Int × Option Int

/-- The time in UTC if the offset is not known. -/
def ClockTime.toTimestamp (t : ClockTime) : Timestamp := ⟨t.1, t.2.getD 0⟩

/-- Date and time, with the offset if it is known. -/
def ClockTime.shown (t : ClockTime) : String :=
  Timestamp.shownWall "T" t.toTimestamp ++ (t.2.map Timestamp.shownOffset).getD ""

namespace Datum

/-- A UTC time, or why there is none. -/
def utcTime (t : Except TimeFault Timestamp) : Except Fault (Option ClockTime) :=
  match t with
  | .ok t => .ok (some (t.wall, some t.offset))
  | .error fault => .error (.time fault)

/-- The time in a text: milliseconds from the epoch, or a date and a time. -/
def textTime (s : String) : Except Fault (Option ClockTime) :=
  let trimmed := Text.trimChars s.toList
  let unsigned := trimmed.dropWhile (· == '-')
  if !unsigned.isEmpty && unsigned.all Text.isAnyDigit then
    match readInteger trimmed with
    | .ok n => utcTime (Timestamp.ofMillis n)
    | .error fault => .error (.integer (String.ofList trimmed) fault)
  else
    match Iso.readTime (String.ofList (Text.replace ['Z'] "+00:00".toList trimmed)) with
    | .ok t => .ok (some t)
    | .error fault => .error (.time fault)

/-- The time that a value stands for; nothing and the empty text stand for
none, and numbers for milliseconds from the epoch. -/
def time : Datum → Except Fault (Option ClockTime)
  | null => .ok none
  | flag b => utcTime (Timestamp.ofMillis (if b then 1 else 0))
  | number (.integer n) => utcTime (Timestamp.ofMillis n)
  | number (.binary x) => utcTime (Timestamp.ofSeconds (x / .ofInt 1000))
  | text s => if s.isEmpty then .ok none else textTime s
  | value => textTime value.shown

end Datum

/-! ## Records -/

/-- The keys that can hold the text of a record, the first of which does. -/
def textKeys : List String := ["raw_text", "raw", "message"]

/-- The key of the time of an item. -/
def timestampKey : String := "timestamp"

/-- The key of the origin of an item. -/
def sourceKey : String := "source"

/-- The key that holds the text. -/
def textKey? (entries : List (Datum × Datum)) : Option String :=
  textKeys.find? fun key => (Datum.get? key entries).isSome

/-- The fields of some entries: all that are not null, as text. -/
def fieldsOf (entries : List (Datum × Datum)) : Fields :=
  .ofList (entries.filterMap fun e =>
    match e.2 with
    | .null => none
    | value => some (e.1.shown, value.shown))

/-- The record of an item, from `source` unless the item says otherwise. -/
def Record.ofDatum (item : Datum) (source : String) : Except Fault Record := do
  let entries ← item.toEntries
  let key := textKey? entries
  let raw := (key.bind (Datum.get? · entries)).map Datum.shown
  let entries := (key.map (Datum.without · entries)).getD entries
  let time ← ((Datum.get? timestampKey entries).getD .null).time
  let own := (Datum.get? sourceKey entries).getD .null
  return {
    raw := raw.getD ""
    timestamp := time.map ClockTime.toTimestamp
    source := some (if own.isVoid then source else own.shown)
    collection := none
    score := .zero false
    fields := fieldsOf (Datum.without sourceKey (Datum.without timestampKey entries)) }

end PipeQuery
