import PipeQuery.Search.Basic
import PipeQuery.Source.ReaderCache
import PipeQuery.Stream.MultiStream
import PipeQuery.Stage.Basic
import PipeQuery.Query.Reader
import PipeQuery.Window

/-!
# The search service

A search without stages gives a page of the hits of its sources and counts
their field values (`SearchService.searchPage`); a search with stages gives
what the stages make of the records (`SearchService.searchPiped`).  Every
source is leased from the reader cache for the time of the search.
-/

namespace PipeQuery

/-- An adapter and the settings of its searches. -/
structure SearchService (σ ρ : Type) where
  adapter : Adapter σ ρ
  settings : SearchSettings

/-- What has come of the sources so far. -/
structure Gathering (σ ρ : Type) where
  total : Int
  facets : Facets
  streams : List (HitStream (Sourcing σ ρ))

/-- Nothing has been gathered. -/
def Gathering.empty {σ ρ : Type} : Gathering σ ρ := ⟨0, .empty, []⟩

namespace SearchService

variable {σ ρ α : Type}

/-- A computation on the readers and the adapter of a service. -/
abbrev Searching (σ ρ α : Type) := Run (Sourcing σ ρ) α

/-- The name that searches log under. -/
def loggerId : String := "SearchService"

/-! ## Leases -/

/-- Leases the sources one after the other and lets `visit` look at each
reader; `finish` works with what came of all.  Every lease ends in the end, the
last one first. -/
def withSources (a : Adapter σ ρ)
    (visit : String → ρ → Gathering σ ρ → Searching σ ρ (Gathering σ ρ))
    (finish : Gathering σ ρ → Searching σ ρ α) :
    List String → Gathering σ ρ → Searching σ ρ α
  | [], gathering => finish gathering
  | source :: rest, gathering => do
    match ← Run.onState (Sourcing.acquire? a source) with
    | none =>
      Run.warn loggerId ("Source does not exist: " ++ source)
      withSources a visit finish rest gathering
    | some lease =>
      Run.andLast
        (do withSources a visit finish rest (← visit source lease.reader gathering))
        (Run.onState (Sourcing.release a lease.id))

/-- A fault of a reader is reported as a fault of its source, unless it is one
of the library's own. -/
def retrievalFault (source : String) (fault : Fault) : Fault :=
  if fault.isOwn then fault else .retrieval source fault.message

/-- A call to a reader of a source. -/
def ask (source : String) (x : Call σ α) : Searching σ ρ α :=
  Run.mapFault (retrievalFault source) (Run.onState (Sourcing.call x))

/-- The stream of some hits in a source. -/
def streamOf (s : SearchService σ ρ) (source : String) (reader : ρ) (hits : List Hit) :
    Except Fault (HitStream (Sourcing σ ρ)) :=
  HitStream.start (fun numbers => Sourcing.call (s.adapter.fetch reader numbers)) hits source
    s.settings.batchSize

/-- The sources of a search. -/
def sourcesOf (s : SearchService σ ρ) (r : SearchRequest) : List String :=
  if r.sources.isEmpty then s.settings.sources else r.sources

/-- All records of a stream, or up to `n` of them. -/
def records (stream : MultiStream (Sourcing σ ρ)) (limit : Option Nat) :
    Searching σ ρ (List Record) := fun w =>
  match (match limit with
    | some n => stream.takeNext n
    | none => stream.drain) w with
  | ((outcome, _), w) => (outcome, w)

/-! ## Pages -/

/-- What a search for a page asks of each source. -/
structure PagePlan where
  filter : String
  range : Option TimeRange
  order : SortOrder
  pageSize : Int
  /-- The number of hits asked of each source. -/
  window : Int
  includeFacets : Bool
  facetFields : List String

/-- The size of the pages of a search. -/
def pageSizeOf (s : SearchService σ ρ) (r : SearchRequest) : Int :=
  match r.pageSize with
  | some n => if n = 0 then s.settings.pageSize else n
  | none => s.settings.pageSize

/-- How the records of a page are searched for. -/
def planPage (s : SearchService σ ρ) (r : SearchRequest) (filter : String) : PagePlan :=
  let pageSize := s.pageSizeOf r
  { filter := filter
    range := r.range
    order := r.order
    pageSize := pageSize
    window := if r.order.key.isPushable then (r.page + 1) * pageSize else s.settings.sortCap
    includeFacets := r.includeFacets
    facetFields := if r.facetFields.isEmpty then s.settings.facetFields else r.facetFields }

/-- Counts the hits in a source and their field values, and takes the first
ones. -/
def visitForPage (s : SearchService σ ρ) (plan : PagePlan) (source : String) (reader : ρ)
    (g : Gathering σ ρ) : Searching σ ρ (Gathering σ ρ) := do
  let count ← ask source (s.adapter.count reader plan.filter plan.range)
  if count = 0 then return g
  else
    let facets ←
      if plan.includeFacets then do
        let counts ← ask source
          (s.adapter.facetCounts reader plan.filter plan.range plan.facetFields)
        pure (g.facets.merge counts)
      else pure g.facets
    let order := if plan.order.key.isPushable then some plan.order else none
    let hits ← ask source
      (s.adapter.search reader plan.filter plan.range (some (min plan.window count)) order)
    let stream ← Run.ofExcept (s.streamOf source reader hits)
    return ⟨g.total + count, facets, g.streams ++ [stream]⟩

/-- The records of the page: those in its window of the merged streams or, when
the sources cannot order their hits, of all of them in order. -/
def pageRecords (plan : PagePlan) (page : Int) (streams : List (HitStream (Sourcing σ ρ))) :
    Searching σ ρ (List Record) := do
  let start := page * plan.pageSize
  if plan.order.key.isPushable then
    let window ← Run.ofExcept (windowOf start (start + plan.pageSize))
    let taken ← records (.start streams (some (Comparator.ofOrder plan.order))) (some window.2)
    return taken.drop window.1
  else
    let all ← records (.start streams none) none
    return between start (start + plan.pageSize) ((Comparator.ofOrder plan.order).sort all)

/-- A page of the hits of a base filter. -/
def searchPage (s : SearchService σ ρ) (r : SearchRequest) (filter : String) :
    Searching σ ρ SearchResponse := do
  let plan := s.planPage r filter
  let (g, records) ← withSources s.adapter (s.visitForPage plan)
    (fun g => do return (g, ← pageRecords plan r.page g.streams))
    (s.sourcesOf r) .empty
  return {
    records := records
    totalHits := g.total
    filteredHits := g.total
    page := r.page
    pageSize := plan.pageSize
    facets := if r.facetBuckets.isEmpty then g.facets else g.facets.bucketed r.facetBuckets
    piped := none
    phases := [.retrieval] }

/-! ## Pipelines -/

/-- Takes the first hits in a source, in merge order. -/
def visitForPipeline (s : SearchService σ ρ) (r : SearchRequest) (filter : String)
    (m : MergeOrder) (source : String) (reader : ρ) (g : Gathering σ ρ) :
    Searching σ ρ (Gathering σ ρ) := do
  let hits ← ask source
    (s.adapter.search reader filter r.range s.settings.resultCap m.sortOrder?)
  let stream ← Run.ofExcept (s.streamOf source reader hits)
  return ⟨g.total + hits.length, g.facets, g.streams ++ [stream]⟩

/-- What the stages make of the hits of a base filter. -/
def searchPiped (s : SearchService σ ρ) (r : SearchRequest) (filter : String)
    (stages : List Stage) : Searching σ ρ SearchResponse := do
  let m ← Run.ofExcept (MergeOrder.named s.settings.mergeOrder)
  let (g, gathered) ← withSources s.adapter (s.visitForPipeline r filter m)
    (fun g => do return (g, ← records (.start g.streams m.comparator?) none))
    (s.sourcesOf r) .empty
  let result ← Run.ofLogged (Stage.runAll stages (.logs gathered))
  let kept := match result with
    | .logs kept => some kept
    | _ => none
  return {
    records := kept.getD []
    totalHits := g.total
    filteredHits := (kept.map fun kept => (kept.length : Int)).getD g.total
    page := 0
    pageSize := (kept.getD []).length
    facets := .empty
    piped := some result
    phases := [.retrieval, .pipeline] }

/-! ## Searches -/

/-- Answers a search.  All stages are built before a source is touched. -/
def search [Platform] (s : SearchService σ ρ) (r : SearchRequest) : Searching σ ρ SearchResponse := do
  let query := Query.read r.query
  if query.hasStages then
    let stages ← Run.ofLogged (Stage.buildAll s.settings.timezone query.stages)
    s.searchPiped r query.base stages
  else s.searchPage r query.base

/-- Lets go of all readers. -/
def close (s : SearchService σ ρ) : Searching σ ρ Unit :=
  Run.onState (Sourcing.close s.adapter)

end SearchService

end PipeQuery
