import PipeQuery.Stage.Stats

/-!
# Charts

`chart` draws the table of its statistics, or a table it is given, as one
series of numbers for each aggregation.
-/

namespace PipeQuery

/-- Statistics and how they are drawn. -/
structure ChartStage where
  stats : Stats
  kind : String
  deriving DecidableEq

namespace ChartStage

/-- The kind of a chart that asks for none. -/
def defaultKind : String := "bar"

/-- The chart that is asked for. -/
def build (spec : StageSpec) : Except Fault ChartStage := do
  let stats ← Stats.build spec
  return ⟨stats, (spec.param? "type").getD defaultKind⟩

/-- The column that labels the rows. -/
def labelColumn? (c : ChartStage) (t : Table) : Option String :=
  match c.stats.groupBy with
  | field :: _ => some field
  | [] => t.columns.head?

/-- The label of a row. -/
def label (column : Option String) (row : Row) : String :=
  ((column.bind row.get?).map Cell.shown).getD ""

/-- The number in a cell; what is no number counts as zero. -/
def point (cell : Option Cell) : Number := (cell.bind Cell.number?).getD (.integer 0)

/-- Labels and series from a table. -/
def reshape (c : ChartStage) (t : Table) : Chart :=
  { kind := c.kind
    labels := t.rows.map (label (c.labelColumn? t))
    series := .ofList (c.stats.aggregations.map fun a =>
      (a.expression, t.rows.map fun row => point (row.get? a.expression)))
    sourceHits := t.sourceHits }

end ChartStage

end PipeQuery
