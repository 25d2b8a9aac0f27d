import PipeQuery.Cli.Command
import PipeQuery.Cli.Screen
import PipeQuery.Benchmark
import PipeQuery.Config
import PipeQuery.Dataset.Loader
import PipeQuery.Source.MemoryIndex
import PipeQuery.Sink

/-!
# Running commands

A command works on a tree of files, prints, logs, and ends with an exit code or
a fault that nobody handles.
-/

namespace PipeQuery.Cli

/-- How a command ends before its end. -/
inductive Ending where
  | exit (code : Nat)
  | crash (fault : Fault)
  deriving DecidableEq

/-- What has been printed and logged. -/
structure Output where
  printed : List Printed
  log : List LogLine

/-- A part of a command. -/
abbrev Task (α : Type) := ExceptT Ending (StateM Output) α

/-- What a command comes to. -/
structure Outcome where
  code : Nat
  printed : List Printed
  log : List LogLine
  fault : Option Fault

namespace Task

variable {α : Type}

/-- Prints a line or a table. -/
def print (p : Printed) : Task Unit := modify fun o => { o with printed := o.printed ++ [p] }

/-- Prints a line. -/
def printLine (text : String) : Task Unit := print (.line text)

/-- Ends with an exit code. -/
def exit (code : Nat) : Task α := throw (.exit code)

/-- A result, or the end of the command. -/
def orCrash (x : Except Fault α) : Task α :=
  match x with
  | .ok a => return a
  | .error fault => throw (.crash fault)

/-- The outcome of a command. -/
def outcome (task : Task Unit) : Outcome :=
  match (ExceptT.run task).run ⟨[], []⟩ with
  | (.ok _, o) => ⟨0, o.printed, o.log, none⟩
  | (.error (.exit code), o) => ⟨code, o.printed, o.log, none⟩
  | (.error (.crash fault), o) => ⟨1, o.printed, o.log, some fault⟩

end Task

/-! ## The service -/

/-- A search service over the records of a dataset, and its loggers. -/
structure Opened where
  service : SearchService MemoryIndex MemoryReader
  index : MemoryIndex
  loggers : Loggers

/-- The configuration cannot be used, and says why. -/
def isConfigFault : Fault → Bool
  | .configMissing _ | .configBatchSize _ | .configTimezone _ | .malformedText _ => true
  | _ => false

/-- Opens the service that a configuration describes. -/
def openService [Platform] (tree : FileTree) (path : String) : Task Opened := do
  match Config.read tree (FileTree.pathOf path) with
  | .error fault =>
    if isConfigFault fault then
      Task.printLine ("[bold red]Config error:[/bold red] " ++ fault.message)
      Task.exit 2
    else throw (.crash fault)
  | .ok config =>
    let rank ← Task.orCrash config.logRank
    let dataset ← Task.orCrash (do Dataset.load tree (← config.path))
    let index := MemoryIndex.ofSources dataset.entries
    let settings ← Task.orCrash config.settings
    let sources := if settings.sources.isEmpty then index.sources else settings.sources
    return ⟨⟨MemoryIndex.adapter, { settings with sources := sources }⟩, index,
      Loggers.initial.setAll rank⟩

/-- Works with the service.  A fault of the library's own is printed and ends
the command. -/
def withService {α : Type} (opened : Opened)
    (x : SearchService.Searching MemoryIndex MemoryReader α) : Task α := do
  let (outcome, w) := Run.attempt (Run.andLast x opened.service.close) ⟨⟨opened.index, .empty⟩, []⟩
  modify fun o => { o with log := o.log ++ w.log.filter opened.loggers.passes }
  match outcome with
  | .ok a => return a
  | .error fault =>
    if fault.isOwn then
      Task.printLine ("[bold red]Error:[/bold red] " ++ fault.message)
      Task.exit 1
    else throw (.crash fault)

/-! ## Search -/

/-- Scores rank the best first unless a direction is given; all else is in
ascending order. -/
def sortsDescending (field : String) (descending : Option Bool) : Bool :=
  descending.getD (field == scoreName)

/-- What a search asks the service for. -/
def SearchCommand.request (c : SearchCommand) : SearchRequest :=
  { SearchRequest.ofQuery c.query with
    sources := c.sources
    page := c.page
    pageSize := c.pageSize
    sortField := c.sortField
    sortDescending := sortsDescending c.sortField c.descending
    includeFacets := c.facets
    range := if c.since.isNone && c.upTo.isNone then none else some ⟨c.since, c.upTo⟩ }

/-- The greatest number of characters of a text that is shown in a list. -/
def previewLength : Nat := 120

/-- The beginning of a text on one line. -/
def preview (text : String) : String :=
  String.ofList ((text.toList.take previewLength).map fun c => if c == '\n' then ' ' else c)

/-- What is shown of a record. -/
def recordRow (r : Record) : List String :=
  [(r.timestamp.map Timestamp.shown).getD "", r.collection.getD "", r.score.fixed 2, preview r.raw]

/-- The records as a table. -/
def recordsTable (title : String) (records : List Record) : Printed :=
  .table ⟨title, ["Timestamp", "Source", "Score", "Message"], records.map recordRow⟩

/-- The values of a field with their counts, the most frequent first. -/
def facetFrame (name : String) (counts : OrderedMap String Int) : Frame :=
  ⟨[name, "count"], (counts.entries.mergeSort fun a b => decide (b.2 ≤ a.2)).map fun e =>
    [.text e.1, .number (.integer e.2)]⟩

/-- The greatest number of values of a field that is shown. -/
def facetLimit : Nat := 10

/-- The greatest number of rows of an export that is shown. -/
def exportLimit : Nat := 20

/-- Prints the first rows of a frame, or all of them. -/
def printFrame (title : String) (frame : Frame) (limit : Option Nat) : Task Unit := do
  Task.print (← Task.orCrash (tableOf title frame limit))

/-- Prints the series of a chart with their labels. -/
def printSeries (title : String) (labels : List String)
    (series : OrderedMap String (List Number)) : Task Unit := do
  printFrame title (← Task.orCrash (seriesFrame labels series)) none

/-- Prints the counts of field values. -/
def printFacets : List (String × OrderedMap String Int) → Task Unit
  | [] => return
  | (name, counts) :: rest => do
    printFrame ("Facet: " ++ name) (facetFrame name counts) (some facetLimit)
    printFacets rest

/-- Prints what a search comes to. -/
def printResponse (r : SearchResponse) : Task Unit := do
  match r.piped with
  | some (.table t) =>
    printFrame ("Table (" ++ shownInt t.sourceHits ++ " source hits)") (.ofTable t) none
  | some (.chart c) => printSeries ("Chart: " ++ c.kind) c.labels c.series
  | some (.timechart c) => printSeries "Time chart" c.labels c.series
  | some (.exported e) =>
    let (summary, _) := (.empty : FrameSink Frame).deliver e
    Task.printLine ("[bold green]Exported[/bold green] " ++ shownInt summary.rowsWritten ++ " of "
      ++ shownInt e.total ++ " results to '" ++ summary.target ++ "'")
    printFrame ("Preview: " ++ summary.target) e.toFrame (some exportLimit)
  | some (.logs records) => Task.print (recordsTable "Results" records)
  | none =>
    Task.print (recordsTable
      ("Results (page " ++ shownInt (r.page + 1) ++ " of " ++ shownInt r.totalPages ++ ")") r.records)
    printFacets r.facets.entries

/-- The name of a duration as it is shown. -/
def durationName (key : String) : String :=
  let plain := Text.replace "_seconds".toList [] key.toList
  let label := Text.trimChars (plain.map fun c => if c == '_' then ' ' else c)
  if label.isEmpty then key else Text.title (String.ofList label)

/-- The durations of a search; `mark` stands for each of them, as none is
measured here. -/
def durationsTable (mark : String) (r : SearchResponse) : Printed :=
  let labels := "load" :: r.phases.map SearchPhase.label ++ ["query"]
  .table ⟨"Query Timings", ["Stage", "Seconds"],
    labels.map fun label => [durationName (durationKey label), mark]⟩

/-- Searches, and prints what it comes to. -/
def runSearch [Platform] (tree : FileTree) (mark : String) (c : SearchCommand) : Task Unit := do
  let opened ← openService tree c.config
  let response ← withService opened (opened.service.search c.request)
  Task.printLine ("[bold green]" ++ response.kind.name ++ "[/bold green] "
    ++ shownInt response.totalHits ++ " hits (" ++ shownInt response.filteredHits
    ++ " after filters)")
  printResponse response
  if c.measure then Task.print (durationsTable mark response)

/-! ## Parse -/

/-- What is shown of a stage as it is written. -/
def stageRow (number : Nat) (spec : StageSpec) : List String :=
  [shownInt number, spec.command, Text.join " " (spec.args.map Text.quoted),
    Text.join ", " (spec.params.entries.map fun e => e.1 ++ "=" ++ e.2)]

/-- Prints the parts of a query. -/
def runParse (text : String) : Task Unit := do
  let query := Query.read text
  Task.printLine ("[bold]Base filter:[/bold] " ++ query.base)
  if query.hasStages then
    Task.print (.table ⟨"Stages", ["#", "Command", "Args", "Params"],
      query.stages.zipIdx.map fun (spec, index) => stageRow (index + 1) spec⟩)

/-! ## Benchmark -/

/-- The row of a query; `mark` stands for its durations. -/
def timingRow (mark : String) (t : QueryTiming) : List String :=
  [t.query, t.resultName, shownInt t.totalHits, shownInt t.rows, shownInt t.runs.length, mark, mark]

/-- Measures some queries, and prints their times. -/
def runBenchmark [Platform] (tree : FileTree) (mark : String) (queries : List String)
    (config : String) (runs : Int) : Task Unit := do
  let opened ← openService tree config
  let timings ← withService opened (opened.service.benchmark runs [] queries)
  Task.print (.table ⟨"Query Benchmarks", (QueryTiming.frame timings).columns,
    timings.map (timingRow mark)⟩)

/-! ## Commands -/

/-- Runs a command on some files; `mark` is printed in the place of
durations. -/
def Command.run [Platform] (tree : FileTree) (mark : String) : Command → Task Unit
  | .search c => runSearch tree mark c
  | .parse query => runParse query
  | .benchmark queries config runs => runBenchmark tree mark queries config runs
  | .help => Task.exit 0
  | .misuse => Task.exit 2

/-- Runs the command of a command line. -/
def run [Platform] (tree : FileTree) (mark : String) (words : List String) : Outcome :=
  Task.outcome ((Command.read words).run tree mark)

end PipeQuery.Cli
