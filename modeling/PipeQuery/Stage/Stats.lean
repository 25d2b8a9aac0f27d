import PipeQuery.Stage.Arguments
import PipeQuery.Fault
import PipeQuery.Result
import PipeQuery.Text.Alphanumeric

/-!
# Statistics

`stats` counts records and aggregates the numbers in their fields, over all
records or in groups.  Records are taken one at a time: every aggregation of
every group keeps a tally.
-/

namespace PipeQuery

/-- What is computed from the values of a field. -/
inductive FieldFunction where
  | average
  | sum
  | least
  | greatest
  /-- The number of different texts. -/
  | distinct
  deriving DecidableEq

namespace FieldFunction

/-- The name of the function. -/
def name : FieldFunction → String
  | average => "avg"
  | sum => "sum"
  | least => "min"
  | greatest => "max"
  | distinct => "dc"

/-- The function of a name. -/
def named? (name : String) : Option FieldFunction :=
  [average, sum, least, greatest, distinct].find? fun f => f.name == name

end FieldFunction

/-- What is computed. -/
inductive Measure where
  | count
  | ofField (function : FieldFunction) (field : String)
  deriving DecidableEq

/-- A measure, and the expression that asked for it, which names its column. -/
structure Aggregation where
  expression : String
  measure : Measure
  deriving DecidableEq

namespace Measure

/-- The name of what is measured. -/
def name : Measure → String
  | count => "count"
  | ofField function _ => function.name

/-- The field whose values are measured. -/
def field? : Measure → Option String
  | count => none
  | ofField _ field => some field

end Measure

namespace Aggregation

/-- The words in front of a parenthesis, and what stands inside it up to the
last character, a closing parenthesis that a line feed may follow. -/
def call? (cs : List Char) : Option (List Char × List Char) :=
  let word := cs.takeWhile Text.isWordChar
  let body := if cs.getLast? == some '\n' then cs.dropLast else cs
  match body.drop word.length with
  | '(' :: inside =>
    if inside.getLast? == some ')' then
      let argument := inside.dropLast
      if word.isEmpty || argument.isEmpty || argument.contains '\n' then none
      else some (word, argument)
    else none
  | _ => none

/-- `count`, or a function of a field such as `avg(latency)`. -/
def read (expression : String) : Except Fault Aggregation :=
  if Text.lower expression == "count" then .ok ⟨expression, .count⟩
  else
    let refused := Except.error (Fault.argument (.aggregation expression))
    match call? expression.toList with
    | none => refused
    | some (word, argument) =>
      match FieldFunction.named? (String.ofList (Text.lowerChars word)) with
      | none => refused
      | some function =>
        .ok ⟨expression, .ofField function (String.ofList (Text.trimChars argument))⟩

end Aggregation

/-! ## Tallies -/

/-- What has been gathered for one aggregation. -/
structure Tally where
  /-- The number of records. -/
  records : Nat
  /-- The number of values that read as numbers. -/
  numbers : Nat
  total : Binary64
  least : Option Binary64
  greatest : Option Binary64
  /-- The different texts. -/
  texts : List String
  deriving DecidableEq

namespace Tally

/-- The tally of no records. -/
def start : Tally := ⟨0, 0, .zero false, none, none, []⟩

/-- Takes the text of a field. -/
def addText (t : Tally) (text : String) : Tally :=
  if t.texts.contains text then t else { t with texts := t.texts ++ [text] }

/-- Takes the number in a field. -/
def addNumber (t : Tally) (x : Binary64) : Tally :=
  { t with
    numbers := t.numbers + 1
    total := t.total + x
    least := some (match t.least with
      | none => x
      | some y => y.min x)
    greatest := some (match t.greatest with
      | none => x
      | some y => y.max x) }

/-- Takes a record. -/
def add (m : Measure) (t : Tally) (r : Record) : Tally :=
  let t := { t with records := t.records + 1 }
  match m with
  | .count => t
  | .ofField function field =>
    match r.get? field with
    | none => t
    | some text =>
      if function = .distinct then t.addText text
      else
        match numberIn? text with
        | none => t
        | some x => t.addNumber x

/-- The value of a measure; without numbers it is zero. -/
def value (m : Measure) (t : Tally) : Number :=
  match m with
  | .count => .integer t.records
  | .ofField .distinct _ => .integer t.texts.length
  | .ofField .sum _ => .binary t.total
  | .ofField .average _ =>
    .binary (if t.numbers = 0 then .zero false else t.total / .ofInt t.numbers)
  | .ofField .least _ => .binary (t.least.getD (.zero false))
  | .ofField .greatest _ => .binary (t.greatest.getD (.zero false))

end Tally

/-! ## The stage -/

/-- Aggregations, and the fields whose values make the groups. -/
structure Stats where
  aggregations : List Aggregation
  groupBy : List String
  deriving DecidableEq

/-- The values of the group fields, and a tally for each aggregation. -/
structure Group where
  values : List String
  tallies : List Tally
  deriving DecidableEq

/-- Stands between the values of the group fields in the key of a group. -/
def groupSeparator : String := "|"

namespace Stats

/-- Aggregations and group fields without repeats. -/
def create (expressions groupBy : List String) : Except Fault Stats := do
  let aggregations ← (firstOccurrences expressions).mapM Aggregation.read
  return ⟨aggregations, firstOccurrences groupBy⟩

/-- The statistics that are asked for. -/
def build (spec : StageSpec) : Except Fault Stats :=
  let grouping := Grouping.ofArgs false spec.args
  create grouping.aggregations grouping.fields

/-- The group fields, then the aggregations. -/
def columns (s : Stats) : List String := s.groupBy ++ s.aggregations.map Aggregation.expression

/-- A tally for each aggregation. -/
def newTallies (s : Stats) : List Tally := s.aggregations.map fun _ => Tally.start

/-- Every tally takes the record. -/
def addRecord (s : Stats) (tallies : List Tally) (r : Record) : List Tally :=
  s.aggregations.zipWith (fun a t => t.add a.measure r) tallies

/-- The cells of the aggregations. -/
def cells (s : Stats) (tallies : List Tally) : List (String × Cell) :=
  s.aggregations.zipWith (fun a t => (a.expression, Cell.number (t.value a.measure))) tallies

/-- The values of the group fields; a missing one is the empty text. -/
def groupValues (s : Stats) (r : Record) : List String :=
  s.groupBy.map fun field => (r.get? field).getD ""

/-- The group that takes the record. -/
def addToGroups (s : Stats) (groups : OrderedMap String Group) (r : Record) :
    OrderedMap String Group :=
  groups.update (Text.join groupSeparator (s.groupValues r)) ⟨s.groupValues r, s.newTallies⟩
    fun g => { g with tallies := s.addRecord g.tallies r }

/-- The row of a group: its values, then its aggregations, which win. -/
def groupRow (s : Stats) (g : Group) : Row :=
  (s.cells g.tallies).foldl (fun row cell => row.insert cell.1 cell.2)
    (.ofList (s.groupBy.zipWith (fun field value => (field, Cell.text value)) g.values))

/-- What a cell sorts by; a text is below all numbers. -/
def rank (cell : Option Cell) : Int :=
  match cell with
  | some (.number n) => n.rank
  | _ => (Binary64.infinite true).rank

/-- Rows in descending order of a column, equal ones in the order they had. -/
def sortRows (column : String) (rows : List Row) : List Row :=
  rows.mergeSort fun a b => decide (rank (b.get? column) ≤ rank (a.get? column))

/-- The table of the records.  Its rows are sorted by the first aggregation; statistics
that are built have one (`Stats.build`). -/
def aggregate (s : Stats) (records : List Record) : Table :=
  if s.groupBy.isEmpty then
    ⟨s.columns, [.ofList (s.cells (records.foldl s.addRecord s.newTallies))], records.length⟩
  else
    let rows := (records.foldl s.addToGroups .empty).values.map s.groupRow
    let sorted :=
      match s.aggregations with
      | [] => rows
      | first :: _ => sortRows first.expression rows
    ⟨s.columns, sorted, records.length⟩

end Stats

end PipeQuery
