import PipeQuery.Stage.Transform

/-!
# Export

`export` packages records with the name of a table to write them to.  Nothing
is written until the package is delivered to a sink.
-/

namespace PipeQuery

/-- Where to write, which fields, and how many records. -/
structure ExportStage where
  target : String
  fields : Option (List String)
  sampleSize : Option Int
  append : Bool
  deriving DecidableEq

namespace ExportStage

/-- Reads a number of records. -/
def readSample (text : String) : Except Fault Int :=
  match readInteger text.toList with
  | .ok n => .ok n
  | .error _ => .error (.argument (.sampleSize text))

/-- The text, unless it is empty. -/
def nonEmpty (text : Option String) : Option String := text.filter fun t => !t.isEmpty

/-- The export that is asked for. -/
def build (spec : StageSpec) : Except Fault ExportStage := do
  match nonEmpty (spec.param? "table") with
  | none => throw (.argument .exportTarget)
  | some target =>
    let fields := (nonEmpty (spec.param? "fields")).map Transform.nameList
    let sampleSize ← (nonEmpty (spec.param? "sample")).mapM readSample
    let append := Text.lower ((spec.param? "append").getD "true") == "true"
    return ⟨target, fields, sampleSize, append⟩

/-- A row as a record: its cells are the fields, and its text lists them. -/
def recordOfRow (columns : List String) (row : Row) : Record :=
  let fields : Fields := .ofList (columns.filterMap fun column =>
    (row.get? column).map fun cell => (column, cell.shown))
  { raw := Text.join " " (fields.entries.map fun e => e.1 ++ "=" ++ e.2)
    timestamp := none
    source := some "table"
    collection := none
    score := .zero false
    fields := fields }

/-- The greatest number of records that can be asked for. -/
def sampleLimit : Int := 9223372036854775807

/-- The number of records to export; all, unless it is positive. -/
def limit? (s : ExportStage) : Option Int := s.sampleSize.filter (0 < ·)

/-- Packages the first records. -/
def package (s : ExportStage) (records : List Record) : Except Fault Export :=
  match s.limit? with
  | some n =>
    if sampleLimit < n then .error .windowEnd
    else .ok (packed (records.take n.toNat))
  | none => .ok (packed records)
where
  packed (sample : List Record) : Export :=
    { records := sample
      target := s.target
      fields := s.fields.filter fun names => !names.isEmpty
      sampleSize := s.sampleSize
      append := s.append
      total := records.length }

end ExportStage

end PipeQuery
