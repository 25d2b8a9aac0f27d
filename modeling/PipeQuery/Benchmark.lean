import PipeQuery.Search.Service
import PipeQuery.Frame

/-!
# Benchmarks

Queries are run several times.  What they come to is taken from the first run;
the durations of all runs are summed up by their mean and their best.
-/

namespace PipeQuery

/-- A query, what it came to, and how long its runs took, in seconds. -/
structure QueryTiming where
  query : String
  resultName : String
  totalHits : Int
  rows : Int
  runs : List Binary64

namespace QueryTiming

/-- The sum of numbers of which not all are finite: that of those. -/
def nonFiniteSum (xs : List Binary64) : Binary64 :=
  (xs.filter fun x => !x.isFinite).foldl (· + ·) (.zero false)

/-- The units of the exact sum of finite numbers. -/
def exactSum (xs : List Binary64) : Int :=
  xs.foldl (fun sum x =>
    match x with
    | .finite negative units _ _ => sum + Binary64.signedUnits negative units
    | _ => sum) 0

/-- The exact mean, rounded once. -/
def mean (xs : List Binary64) : Binary64 :=
  if xs.isEmpty then .zero false
  else if xs.all Binary64.isFinite then
    .ofFraction (exactSum xs < 0) (exactSum xs).natAbs xs.length
  else nonFiniteSum xs

/-- The least of the numbers. -/
def least : List Binary64 → Binary64
  | [] => .zero false
  | x :: rest => rest.foldl Binary64.min x

/-- The mean time of a run. -/
def meanSeconds (t : QueryTiming) : Binary64 := mean t.runs

/-- The time of the fastest run. -/
def bestSeconds (t : QueryTiming) : Binary64 := least t.runs

/-- Milliseconds with three places. -/
def millisOf (seconds : Binary64) : Binary64 := (seconds * .ofInt 1000).roundPlaces 3

/-- The columns of the frame of timings. -/
def columns : List String := ["query", "result", "hits", "rows", "runs", "mean_ms", "best_ms"]

/-- What is shown of a query, in the order of the columns. -/
def cells (t : QueryTiming) : List Cell :=
  [.text t.query, .text t.resultName, .number (.integer t.totalHits), .number (.integer t.rows),
    .number (.integer t.runs.length), .number (.binary (millisOf t.meanSeconds)),
    .number (.binary (millisOf t.bestSeconds))]

/-- The frame of timings; without any it has no columns. -/
def frame (timings : List QueryTiming) : Frame :=
  if timings.isEmpty then .empty
  else .ofTable ⟨columns, timings.map fun t => .ofList (columns.zip t.cells), 0⟩

end QueryTiming

/-- The number of rows that a search comes to. -/
def SearchResponse.rowCount (r : SearchResponse) : Nat :=
  match r.piped with
  | none => r.records.length
  | some (.logs records) => records.length
  | some (.table t) => t.rows.length
  | some (.chart c) => c.labels.length
  | some (.timechart c) => c.labels.length
  | some (.exported e) => e.records.length

namespace SearchService

variable {σ ρ : Type}

/-- Runs a search again and again. -/
def rerun [Platform] (s : SearchService σ ρ) (r : SearchRequest) : Nat → Searching σ ρ Unit
  | 0 => return
  | n + 1 => do
    let _ ← s.search r
    s.rerun r n

/-- Runs a query some times.  The runs are not measured here: every one counts
as no time at all. -/
def timeQuery [Platform] (s : SearchService σ ρ) (count : Int) (sources : List String)
    (query : String) : Searching σ ρ QueryTiming := do
  if count ≤ 0 then throw (.repeatCount count)
  let request := { SearchRequest.ofQuery query with sources := sources, includeFacets := false }
  let response ← s.search request
  s.rerun request (count.toNat - 1)
  return ⟨query, response.kind.name, response.totalHits, response.rowCount,
    List.replicate count.toNat (.zero false)⟩

/-- Runs several queries. -/
def benchmark [Platform] (s : SearchService σ ρ) (count : Int) (sources : List String)
    (queries : List String) : Searching σ ρ (List QueryTiming) :=
  queries.mapM (s.timeQuery count sources)

end SearchService

end PipeQuery
