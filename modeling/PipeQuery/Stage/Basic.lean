import PipeQuery.Stage.Filter
import PipeQuery.Stage.Transform
import PipeQuery.Stage.Chart
import PipeQuery.Stage.TimeChart
import PipeQuery.Stage.Export

/-!
# Stages

A stage takes a result and gives one.  `Stage.execute` says what each stage
does with each kind of result; a kind it does not apply to passes unchanged,
with a warning.  `Stage.runAll` runs stages one after the other and stops
changing the result once it is terminal.
-/

namespace PipeQuery

/-- A stage that is ready to run. -/
inductive Stage where
  | filter (s : Filter)
  | transform (s : Transform)
  | stats (s : Stats)
  | chart (s : ChartStage)
  | timechart (s : TimeChartStage)
  | exporting (s : ExportStage)

namespace Stage

/-- The command that builds the stage. -/
def name : Stage → String
  | filter _ => Filter.stageName
  | transform _ => Transform.stageName
  | stats _ => "stats"
  | chart _ => "chart"
  | timechart _ => "timechart"
  | exporting _ => "export"

/-- The commands that there are. -/
def commands : List String := ["chart", "export", "filter", "stats", "timechart", "transform"]

/-! ## Building -/

/-- Builds a stage from what is written. -/
def build [Platform] (timezone : String) (spec : StageSpec) : Logged Stage :=
  match Text.lower spec.command with
  | "filter" => do return filter (← Logged.ofExcept (Filter.build spec))
  | "transform" => do return transform (← Logged.ofExcept (Transform.build spec))
  | "stats" => do return stats (← Logged.ofExcept (Stats.build spec))
  | "chart" => do return chart (← Logged.ofExcept (ChartStage.build spec))
  | "timechart" => do return timechart (← TimeChartStage.build spec timezone)
  | "export" => do return exporting (← Logged.ofExcept (ExportStage.build spec))
  | _ => throw (.unknownCommand spec.command)

/-- Builds all stages, in order. -/
def buildAll [Platform] (timezone : String) : List StageSpec → Logged (List Stage)
  | [] => return []
  | spec :: rest => do
    let stage ← build timezone spec
    return stage :: (← buildAll timezone rest)

/-! ## Running -/

/-- Leaves a result as it is, with a warning. -/
def passThrough (stage : Stage) (result : Result) : Logged Result := do
  Logged.warn "Stages"
    (stage.name ++ " does not apply to " ++ result.kind.name
      ++ " results; passing them through unchanged")
  return result

/-- What the stage makes of a result. -/
def execute (stage : Stage) (result : Result) : Logged Result :=
  match stage, result with
  | filter s, .logs records => return .logs (records.filter s.keepsRecord)
  | filter s, .table t => return .table { t with rows := t.rows.filter s.keepsRow }
  | transform s, .logs records => return .logs (records.map s.applyRecord)
  | transform s, .table t => return .table (s.applyTable t)
  | stats s, .logs records => return .table (s.aggregate records)
  | chart s, .logs records => return .chart (s.reshape (s.stats.aggregate records))
  | chart s, .table t => return .chart (s.reshape t)
  | timechart s, .logs records => do return .timechart (← Logged.ofExcept (s.bucket records))
  | exporting s, .logs records => do return .exported (← Logged.ofExcept (s.package records))
  | exporting s, .table t => do
    return .exported (← Logged.ofExcept
      (s.package (t.rows.map (ExportStage.recordOfRow t.columns))))
  | _, _ => passThrough stage result

/-- The name that stages log under while they run. -/
def loggerId : String := "SearchService"

/-- A fault while running a stage is reported as a fault of that stage, unless
it is one of the library's own. -/
def guarded (stage : Stage) (result : Result) : Logged Result :=
  tryCatch (stage.execute result) fun fault => do
    if fault.isOwn then throw fault
    Logged.write .error loggerId ("Error executing pipe command: " ++ stage.name)
    throw (.execution stage.name fault.message)

/-- Runs a stage, unless the result is terminal. -/
def step (stage : Stage) (result : Result) : Logged Result := do
  if result.kind.isTerminal then
    Logged.warn loggerId
      ("Skipping " ++ stage.name ++ ": " ++ result.kind.name ++ " results are terminal")
    return result
  else stage.guarded result

/-- Runs stages one after the other. -/
def runAll : List Stage → Result → Logged Result
  | [], result => return result
  | stage :: rest, result => do runAll rest (← stage.step result)

end Stage

end PipeQuery
