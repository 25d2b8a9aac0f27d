import PipeQuery.Source.Basic
import PipeQuery.Run

/-!
# Adapters

An adapter opens readers on sources and answers what is asked of them.  Every
call may fail, and may change what the adapter remembers.
-/

namespace PipeQuery

/-- Operations on what an adapter remembers (`σ`) and its readers (`ρ`). -/
structure Adapter (σ ρ : Type) where
  /-- Opens a reader on a source; there is none on a source that is not known. -/
  openReader : String → Call σ (Option ρ)
  /-- The reader still shows what its source holds. -/
  isCurrent : String → ρ → Call σ Bool
  close : ρ → Call σ Unit
  /-- The number of records that a filter selects in a range. -/
  count : ρ → String → Option TimeRange → Call σ Int
  /-- The hits of a filter in a range, in an order, up to a position. -/
  search : ρ → String → Option TimeRange → Option Int → Option SortOrder → Call σ (List Hit)
  /-- The records of some numbers. -/
  fetch : ρ → List Int → Call σ (List Record)
  /-- How often each value of some fields occurs among the hits; of all their
  fields, if none are named. -/
  facetCounts : ρ → String → Option TimeRange → List String → Call σ Facets

end PipeQuery
