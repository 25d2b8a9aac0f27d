import PipeQuery.Search.Facets
import PipeQuery.Result
import PipeQuery.Stream.Comparator

/-!
# Searches

What is asked of a search service, what it answers, and the settings that it
works with.
-/

namespace PipeQuery

/-- What holds for all searches of a service. -/
structure SearchSettings where
  /-- The sources of a search that names none. -/
  sources : List String
  /-- The number of records fetched at a time. -/
  batchSize : Int
  /-- How the records for a pipeline are put together. -/
  mergeOrder : String
  /-- The number of records that each source gives to a pipeline. -/
  resultCap : Option Int
  timezone : String
  pageSize : Int
  /-- The number of records of each source that are sorted by a field. -/
  sortCap : Int
  /-- The fields whose values are counted when a search names none. -/
  facetFields : List String
  deriving DecidableEq

namespace SearchSettings

/-- What holds when nothing is said. -/
def standard : SearchSettings where
  sources := []
  batchSize := 1000
  mergeOrder := "sequential"
  resultCap := some 10000
  timezone := "UTC"
  pageSize := 50
  sortCap := 10000
  facetFields := []

end SearchSettings

/-- A search. -/
structure SearchRequest where
  sources : List String
  query : String
  page : Int
  pageSize : Option Int
  sortField : String
  sortDescending : Bool
  includeFacets : Bool
  facetFields : List String
  range : Option TimeRange
  facetBuckets : OrderedMap String (List Number)

namespace SearchRequest

/-- The search for a query when nothing else is said. -/
def ofQuery (query : String) : SearchRequest where
  sources := []
  query := query
  page := 0
  pageSize := none
  sortField := scoreName
  sortDescending := true
  includeFacets := true
  facetFields := []
  range := none
  facetBuckets := .empty

/-- The order of the results of a search without stages. -/
def order (r : SearchRequest) : SortOrder :=
  ⟨if r.sortField.isEmpty then .score else .named r.sortField, r.sortDescending⟩

end SearchRequest

/-- The parts of a search that take time. -/
inductive SearchPhase where
  | retrieval
  | pipeline
  deriving DecidableEq

/-- The name of the phase. -/
def SearchPhase.label : SearchPhase → String
  | retrieval => "retrieval"
  | pipeline => "pipeline"

/-- The key that the duration of a labelled part is kept under. -/
def durationKey (label : String) : String := label ++ "_seconds"

/-- What a search comes to. -/
structure SearchResponse where
  records : List Record
  totalHits : Int
  filteredHits : Int
  page : Int
  pageSize : Int
  facets : Facets
  /-- What the stages made of the records, if there are stages. -/
  piped : Option Result
  phases : List SearchPhase

namespace SearchResponse

/-- The kind of what is answered. -/
def kind (r : SearchResponse) : ResultKind :=
  match r.piped with
  | none => .logs
  | some result => result.kind

/-- The number of pages of so many hits; there is always one. -/
def pagesOf (hits pageSize : Int) : Int :=
  if pageSize ≤ 0 then 1
  else max 1 (((Binary64.ofRatio hits pageSize.toNat).ceiling?).getD 1)

/-- The number of pages of all hits. -/
def totalPages (r : SearchResponse) : Int := pagesOf r.totalHits r.pageSize

end SearchResponse

end PipeQuery
