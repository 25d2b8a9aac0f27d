import PipeQuery.Record

/-!
# Results

What stages pass on: records, a table, a chart, a chart over time, or records
packaged for export.  The last three are terminal: no stage changes them.
-/

namespace PipeQuery

/-- A table with columns in order. -/
structure Table where
  columns : List String
  rows : List Row
  /-- The number of records that it was made of. -/
  sourceHits : Int
  deriving DecidableEq

/-- Labels and series of numbers, one for each label. -/
structure Chart where
  kind : String
  labels : List String
  series : OrderedMap String (List Number)
  sourceHits : Int
  deriving DecidableEq

/-- Labels of spans of time, and series of counts, one for each label. -/
structure TimeChart where
  labels : List String
  series : OrderedMap String (List Number)
  sourceHits : Int
  deriving DecidableEq

/-- Records packaged for a sink. -/
structure Export where
  records : List Record
  target : String
  fields : Option (List String)
  sampleSize : Option Int
  append : Bool
  /-- The number of records before sampling. -/
  total : Int
  deriving DecidableEq

/-- The kinds of results. -/
inductive ResultKind where
  | logs
  | table
  | chart
  | timechart
  | exported
  deriving DecidableEq

namespace ResultKind

/-- The name of the kind. -/
def name : ResultKind → String
  | logs => "logs"
  | table => "table"
  | chart => "chart"
  | timechart => "timechart"
  | exported => "export"

/-- No stage changes a result of this kind. -/
def isTerminal : ResultKind → Bool
  | logs | table => false
  | chart | timechart | exported => true

end ResultKind

/-- What a stage takes and gives. -/
inductive Result where
  | logs (records : List Record)
  | table (t : Table)
  | chart (c : Chart)
  | timechart (c : TimeChart)
  | exported (e : Export)
  deriving DecidableEq

/-- The kind of the result. -/
def Result.kind : Result → ResultKind
  | logs _ => .logs
  | table _ => .table
  | chart _ => .chart
  | timechart _ => .timechart
  | exported _ => .exported

end PipeQuery
