import PipeQuery.Source.Adapter
import PipeQuery.Source.BaseFilter
import PipeQuery.Window

/-!
# Records in memory

`MemoryIndex` keeps the records of each source and counts how often a source
was added to, which is its generation.  A reader shows the records that its
source held when it was opened, whatever is added later.
-/

namespace PipeQuery

/-- The records of a source, and how often it was added to. -/
structure SourceContent where
  records : List Record
  generation : Nat
  deriving DecidableEq

/-- A view of a source as it was when it was opened. -/
structure MemoryReader where
  /-- Tells the readers apart: the number of openings before. -/
  serial : Nat
  source : String
  records : List Record
  generation : Nat
  deriving DecidableEq

/-- The contents of the sources, and the readers opened on them. -/
structure MemoryIndex where
  contents : OrderedMap String SourceContent
  /-- How often a reader was asked for. -/
  openings : Nat
  /-- The readers that were closed, once for every closing. -/
  closed : List Nat
  deriving DecidableEq

/-- Orders hits as asked.  Hits of equal rank keep their order, and records
without an instant come last. -/
def orderHits (records : List Record) (order : Option SortOrder) (hits : List Hit) : List Hit :=
  match order with
  | some ⟨.score, descending⟩ =>
    hits.mergeSort fun a b => if descending then b.score.le a.score else a.score.le b.score
  | some ⟨.timestamp, descending⟩ =>
    let timed := hits.filterMap fun h =>
      ((itemAt? records h.number).bind Record.millis?).map fun millis => (millis, h)
    let untimed := hits.filter fun h => ((itemAt? records h.number).bind Record.millis?).isNone
    (timed.mergeSort fun a b => if descending then b.1 ≤ a.1 else a.1 ≤ b.1).map Prod.snd ++ untimed
  | _ => hits

namespace MemoryReader

/-- The hits of a query in a range, in the order of the records. -/
def hits (reader : MemoryReader) (query : String) (range : Option TimeRange) : List Hit :=
  hitsAmong reader.records query range

/-- The first hits of a query in an order. -/
def search (reader : MemoryReader) (query : String) (range : Option TimeRange)
    (limit : Option Int) (order : Option SortOrder) : List Hit :=
  let ordered := orderHits reader.records order (reader.hits query range)
  match limit with
  | none => ordered
  | some stop => takeTo stop ordered

/-- The records of some numbers, if there are all of them. -/
def fetch (reader : MemoryReader) : List Int → Except Fault (List Record)
  | [] => .ok []
  | number :: rest =>
    match itemAt? reader.records number with
    | none => .error .unknownRecord
    | some record => (reader.fetch rest).map (record :: ·)

/-- The records that were hit. -/
def hitRecords (reader : MemoryReader) (hits : List Hit) : List Record :=
  hits.filterMap fun h => itemAt? reader.records h.number

/-- How often each value of a field occurs in some records. -/
def valueCounts (records : List Record) (field : String) : OrderedMap String Int :=
  records.foldl (fun counts r =>
    match r.get? field with
    | some value => counts.update value 0 (· + 1)
    | none => counts) .empty

/-- The texts in ascending order. -/
def sortTexts (texts : List String) : List String := texts.mergeSort fun a b => decide (a ≤ b)

/-- How often the values of fields come among the hits; of all fields if none is asked for. -/
def facetCounts (reader : MemoryReader) (query : String) (range : Option TimeRange)
    (fields : List String) : Facets :=
  let records := reader.hitRecords (reader.hits query range)
  let fields :=
    if fields.isEmpty then
      sortTexts (firstOccurrences (records.flatMap fun r => r.fields.keys))
    else fields
  .ofList (fields.map fun field => (field, valueCounts records field))

end MemoryReader

namespace MemoryIndex

/-- No sources and no readers. -/
def empty : MemoryIndex := ⟨.empty, 0, []⟩

/-- The names of the sources in ascending order. -/
def sources (index : MemoryIndex) : List String := MemoryReader.sortTexts index.contents.keys

/-- Adds records to a source. -/
def add (index : MemoryIndex) (source : String) (records : List Record) : MemoryIndex :=
  { index with
    contents := index.contents.update source ⟨[], 0⟩ fun content =>
      ⟨content.records ++ records, content.generation + 1⟩ }

/-- The index of some sources with their records. -/
def ofSources (sources : List (String × List Record)) : MemoryIndex :=
  sources.foldl (fun index s => index.add s.1 s.2) empty

/-- Whether a reader has been closed. -/
def isClosed (index : MemoryIndex) (reader : MemoryReader) : Bool :=
  index.closed.contains reader.serial

/-- Opens a reader on a source that is known. -/
def openReader (source : String) : Call MemoryIndex (Option MemoryReader) := do
  let index ← get
  set { index with openings := index.openings + 1 }
  return (index.contents.get? source).map fun content =>
    ⟨index.openings, source, content.records, content.generation⟩

/-- The reader is of the newest generation of its source. -/
def isCurrent (source : String) (reader : MemoryReader) : Call MemoryIndex Bool := do
  let index ← get
  return ((index.contents.get? source).map SourceContent.generation) == some reader.generation

/-- Closes a reader. -/
def close (reader : MemoryReader) : Call MemoryIndex Unit :=
  modify fun index => { index with closed := index.closed ++ [reader.serial] }

/-- Fetches records through a reader that is not closed. -/
def fetch (reader : MemoryReader) (numbers : List Int) : Call MemoryIndex (List Record) := do
  let index ← get
  if index.isClosed reader then throw (.readerClosed reader.source)
  match reader.fetch numbers with
  | .ok records => return records
  | .error fault => throw fault

/-- The index as an adapter. -/
def adapter : Adapter MemoryIndex MemoryReader where
  openReader := openReader
  isCurrent := isCurrent
  close := close
  count reader query range := return (reader.hits query range).length
  search reader query range limit order := return reader.search query range limit order
  fetch := fetch
  facetCounts reader query range fields := return reader.facetCounts query range fields

end MemoryIndex

end PipeQuery
