import PipeQuery.Source.Basic
import PipeQuery.Run

/-!
# Streams of hits

The records of the hits in one source, fetched in batches as they are asked
for.  A batch that fails is asked for again; nothing is lost or repeated.
-/

namespace PipeQuery

/-- Hits with their records, as far as they have been fetched. -/
structure HitStream (σ : Type) where
  /-- Fetches the records of some numbers. -/
  fetch : List Int → Call σ (List Record)
  hits : List Hit
  collection : String
  batchSize : Nat
  /-- The number of records given so far. -/
  position : Nat
  /-- The records fetched last, and the position of the first of them. -/
  batch : List Record
  batchStart : Nat
  /-- The number of batches fetched. -/
  batches : Nat

namespace HitStream

variable {σ : Type}

/-- What a stream comes to when asked: a record, or none at its end. -/
abbrev Answer := Except Fault (Option Record)

/-- A stream at its start. -/
def start (fetch : List Int → Call σ (List Record)) (hits : List Hit) (collection : String)
    (batchSize : Int) : Except Fault (HitStream σ) :=
  if batchSize ≤ 0 then .error (.batchSize batchSize)
  else .ok ⟨fetch, hits, collection, batchSize.toNat, 0, [], 0, 0⟩

/-- Whether a record is left. -/
def hasNext (s : HitStream σ) : Bool := s.position < s.hits.length

/-- The hits of the next batch. -/
def nextHits (s : HitStream σ) : List Hit := (s.hits.drop s.position).take s.batchSize

/-- The name that streams log under. -/
def loggerId : String := "Streaming"

/-- Fetches the next batch. -/
def fetchBatch (s : HitStream σ) : Run σ (List Record) := fun w =>
  match Run.attempt (Run.onState (s.fetch (s.nextHits.map Hit.number))) w with
  | (.error fault, w) =>
    (do
      Run.write .error loggerId
        ("Error fetching " ++ s.collection ++ " results at offset " ++ shownInt s.position)
      throw (.retrieval s.collection fault.message) : Run σ (List Record)) w
  | (.ok records, w) =>
    if records.length = s.nextHits.length then
      (.ok ((records.zip s.nextHits).map fun r => r.1.withHit r.2.score s.collection), w)
    else
      (.error (.retrieval s.collection
        ("reader returned " ++ shownInt records.length ++ " records for "
          ++ shownInt s.nextHits.length ++ " hits")), w)

/-- Gives the record at the position from the batch. -/
def take (s : HitStream σ) : Option Record × HitStream σ :=
  (s.batch[s.position - s.batchStart]?, { s with position := s.position + 1 })

/-- The next record, and what is left of the stream. -/
def next (s : HitStream σ) : StateM (World σ) (Answer × HitStream σ) := fun w =>
  if !s.hasNext then ((.ok none, s), w)
  else if s.position < s.batchStart + s.batch.length then
    match s.take with
    | (record, s) => ((.ok record, s), w)
  else
    match Run.attempt s.fetchBatch w with
    | (.error fault, w) => ((.error fault, s), w)
    | (.ok batch, w) =>
      match take { s with batch := batch, batchStart := s.position, batches := s.batches + 1 } with
      | (record, s) => ((.ok record, s), w)

end HitStream

end PipeQuery
