import PipeQuery.Stage.Arguments
import PipeQuery.Logged
import PipeQuery.Result
import PipeQuery.Platform.Basic

/-!
# Charts over time

`timechart` counts records in spans of equal length, in one series or in one
series for each value of a field.
-/

namespace PipeQuery

/-- Spans, the field that splits the series, and the zone of the labels. -/
structure TimeChartStage where
  spanMillis : Nat
  splitBy : Option String
  zone : Zone
  zoneName : String
  aggregations : List String

namespace TimeChartStage

/-- The name that charts over time log under. -/
def loggerId : String := "TimeChartStage"

/-- The span of a chart that asks for none. -/
def defaultSpan : String := "1h"

/-- The milliseconds of an hour. -/
def hourMillis : Nat := 3600 * 1000

/-- The milliseconds of a unit of time. -/
def unitMillis? (unit : List Char) : Option Nat :=
  [(['s'], 1000), (['m'], 60 * 1000), (['h'], hourMillis), (['d'], 86400 * 1000)].lookup unit

/-- A number of units such as `5m`, in milliseconds.  Without text, or with an
unknown unit, it is an hour. -/
def readSpan (span : Option String) : Logged Nat := do
  match span with
  | none => return hourMillis
  | some text =>
    if text.isEmpty then return hourMillis
    let trimmed := Text.trimChars text.toList
    let digits := trimmed.takeWhile Text.isDecimal
    let unit := trimmed.dropWhile Text.isDecimal
    if digits.isEmpty || unit.any Text.isDecimal then throw (.argument (.span text))
    match readInteger digits with
    | .error fault => throw (.integer (String.ofList digits) fault)
    | .ok amount =>
      if amount = 0 then throw (.argument .zeroSpan)
      match unitMillis? unit with
      | some millis => return amount.toNat * millis
      | none =>
        Logged.warn loggerId
          ("Unknown span unit " ++ Text.quoted (String.ofList unit) ++ " in " ++ Text.quoted text
            ++ ", using " ++ defaultSpan)
        return hourMillis

/-- A chart over time; all it can do is count. -/
def create [Platform] (span : Option String) (aggregations : List String) (splitBy : Option String)
    (timezone : String) : Logged TimeChartStage := do
  match Platform.zone? timezone with
  | none => throw (.argument (.timezone timezone))
  | some zone =>
    let ignored := aggregations.filter fun a => Text.lower a != defaultAggregation
    if !ignored.isEmpty then
      Logged.warn loggerId ("timechart only counts events; ignoring " ++ Text.join ", " ignored)
    let spanMillis ← readSpan span
    return ⟨spanMillis, splitBy, zone, timezone, aggregations⟩

/-- The chart over time that is asked for. -/
def build [Platform] (spec : StageSpec) (timezone : String) : Logged TimeChartStage :=
  let grouping := Grouping.ofArgs true spec.args
  create (some ((spec.param? "span").getD defaultSpan)) grouping.aggregations
    grouping.fields.head? timezone

/-! ## Counting -/

/-- The name of the series that is not split. -/
def defaultSeries : String := "count"

/-- The series that a record belongs to. -/
def seriesName (s : TimeChartStage) (r : Record) : String :=
  (s.splitBy.bind r.get?).getD defaultSeries

/-- The start of the span that an instant lies in. -/
def spanStart (s : TimeChartStage) (millis : Int) : Int := millis / s.spanMillis * s.spanMillis

/-- Counts by series and start, and the first and last instant so far. -/
structure Counts where
  series : OrderedMap String (OrderedMap Int Nat)
  range : Option (Int × Int)

/-- Counts a record at an instant. -/
def Counts.add (s : TimeChartStage) (c : Counts) (r : Record) : Counts :=
  match r.millis? with
  | none => c
  | some millis =>
    { series := c.series.update (s.seriesName r) .empty fun counts =>
        counts.update (s.spanStart millis) 0 (· + 1)
      range := some (match c.range with
        | none => (millis, millis)
        | some (low, high) => (min low millis, max high millis)) }

/-- The starts of all spans from one instant to another. -/
def spanStarts (s : TimeChartStage) (low high : Int) : List Int :=
  (List.range (high / s.spanMillis - low / s.spanMillis + 1).toNat).map fun (i : Nat) =>
    (low / s.spanMillis + (i : Int)) * s.spanMillis

/-- Date, hour and minute. -/
def shownLabel (t : Timestamp) : String :=
  shownInt t.date.year ++ "-" ++ Timestamp.padded 2 t.date.month ++ "-"
    ++ Timestamp.padded 2 t.date.day ++ " " ++ Timestamp.shownClock (t.microOfDay / 60000000 * 60000000) false

/-- The label of a span, on the clocks of the zone. -/
def label (zone : Zone) (start : Int) : Except TimeFault String := do
  let t ← Timestamp.ofMillis start
  return shownLabel (← zone.show? t)

/-- The chart of the records. -/
def bucket (s : TimeChartStage) (records : List Record) : Except Fault TimeChart :=
  let counts := records.foldl (Counts.add s) ⟨.empty, none⟩
  match counts.range with
  | none => .ok ⟨[], .empty, records.length⟩
  | some (low, high) =>
    let starts := s.spanStarts low high
    match starts.mapM (label s.zone) with
    | .error fault => .error (.time fault)
    | .ok labels =>
      .ok ⟨labels, counts.series.mapValues fun c =>
        starts.map fun start => .integer ((c.get? start).getD 0), records.length⟩

end TimeChartStage

end PipeQuery
