import PipeQuery.Proofs.Outcome
import PipeQuery.Stream.HitStream

/-!
# Streams of hits as lists

A stream fetches its records in batches, but to whoever asks it is the list of
the records that its hits stand for.  `HitStream.Gives` says that a stream comes
to a list in a state of its source, and `Gives.next` that one step of the stream
is one step along the list, wherever the batches end.

The source has to answer for that: `HitStream.ServedBy` asks that it can fetch
any of the hits and is not changed by it.
-/

namespace PipeQuery

variable {σ : Type}

namespace HitStream

/-- The record that a hit of the stream stands for. -/
def shownBy (s : HitStream σ) (recordOf : Int → Record) (h : Hit) : Record :=
  (recordOf h.number).withHit h.score s.collection

/-- The stream with a batch that begins at its position. -/
def refilled (s : HitStream σ) (batch : List Record) : HitStream σ :=
  { s with batch := batch, batchStart := s.position, batches := s.batches + 1 }

/-- The source answers with its records and stays as it is, and the batch of
the stream is a part of them that the position has not passed. -/
structure ServedBy (s : HitStream σ) (state : σ) (recordOf : Int → Record) : Prop where
  fetches : ∀ part : List Hit, (∀ h ∈ part, h ∈ s.hits) →
    Call.on (s.fetch (part.map Hit.number)) state =
      (.ok (part.map fun h => recordOf h.number), state)
  batchSize_pos : 0 < s.batchSize
  started : s.batchStart ≤ s.position
  within : s.position ≤ s.batchStart + s.batch.length
  batch_eq : s.batch =
    ((s.hits.map (s.shownBy recordOf)).drop s.batchStart).take s.batch.length

/-- In a state, the stream gives these records and then ends. -/
def Gives (s : HitStream σ) (state : σ) (left : List Record) : Prop :=
  ∃ recordOf, s.ServedBy state recordOf ∧
    left = (s.hits.map (s.shownBy recordOf)).drop s.position

/-- A stream at its start. -/
def atStart (fetch : List Int → Call σ (List Record)) (hits : List Hit) (collection : String)
    (batchSize : Nat) : HitStream σ :=
  ⟨fetch, hits, collection, batchSize, 0, [], 0, 0⟩

theorem start_of_pos {batchSize : Int} (h : 1 ≤ batchSize)
    (fetch : List Int → Call σ (List Record)) (hits : List Hit) (collection : String) :
    start fetch hits collection batchSize =
      .ok (atStart fetch hits collection batchSize.toNat) := by
  rw [start, if_neg (by omega)]
  rfl

/-- A stream at its start gives the records of all its hits. -/
theorem gives_atStart {fetch : List Int → Call σ (List Record)} {hits : List Hit}
    {batchSize : Nat} {state : σ} {recordOf : Int → Record} (hsize : 0 < batchSize)
    (hfetch : ∀ part : List Hit, (∀ h ∈ part, h ∈ hits) →
      Call.on (fetch (part.map Hit.number)) state =
        (.ok (part.map fun h => recordOf h.number), state)) (collection : String) :
    (atStart fetch hits collection batchSize).Gives state
      (hits.map fun h => (recordOf h.number).withHit h.score collection) :=
  ⟨recordOf, ⟨hfetch, hsize, Nat.le_refl _, Nat.le_refl _, rfl⟩, rfl⟩

section Steps

variable {s : HitStream σ} {w : World σ} {recordOf : Int → Record}

theorem mem_of_mem_nextHits {h : Hit} (hmem : h ∈ s.nextHits) : h ∈ s.hits :=
  List.mem_of_mem_drop (List.mem_of_mem_take hmem)

/-- A batch is fetched with the scores of its hits. -/
theorem ServedBy.fetchBatch (h : s.ServedBy w.state recordOf) :
    s.fetchBatch.attempt w = (.ok (s.nextHits.map (s.shownBy recordOf)), w) := by
  have hcall := h.fetches s.nextHits fun _ => mem_of_mem_nextHits
  have hbatch : Run.attempt (Run.onState (s.fetch (s.nextHits.map Hit.number))) w =
      (.ok (s.nextHits.map fun h => recordOf h.number), w) := Run.on_onState hcall
  have hzip : ((s.nextHits.map fun h => recordOf h.number).zip s.nextHits).map
      (fun r => r.1.withHit r.2.score s.collection) = s.nextHits.map (s.shownBy recordOf) := by
    induction s.nextHits with
    | nil => rfl
    | cons first rest ih => rw [List.map_cons, List.zip_cons_cons, List.map_cons, ih]; rfl
  show HitStream.fetchBatch s w = _
  unfold HitStream.fetchBatch
  rw [hbatch]
  simp only [List.length_map, if_true, hzip]

/-- Inside its batch, a stream gives the record at its position. -/
theorem ServedBy.take (h : s.ServedBy w.state recordOf)
    (hinside : s.position < s.batchStart + s.batch.length) :
    s.take = (((s.hits.map (s.shownBy recordOf)).drop s.position).head?,
        { s with position := s.position + 1 }) ∧
      ServedBy { s with position := s.position + 1 } w.state recordOf := by
  have hstarted := h.started
  constructor
  · have hrecord : s.batch[s.position - s.batchStart]? =
        ((s.hits.map (s.shownBy recordOf)).drop s.position).head? := by
      rw [h.batch_eq, List.getElem?_take_of_lt (by omega), List.getElem?_drop, List.head?_drop]
      congr 1
      omega
    rw [HitStream.take, hrecord]
  · exact ⟨h.fetches, h.batchSize_pos, Nat.le_succ_of_le hstarted, hinside, h.batch_eq⟩

/-- The next batch begins at the position and is not empty before the end. -/
theorem ServedBy.refilled (h : s.ServedBy w.state recordOf) (hnext : s.hasNext = true) :
    (s.refilled (s.nextHits.map (s.shownBy recordOf))).ServedBy w.state recordOf ∧
      0 < (s.nextHits.map (s.shownBy recordOf)).length := by
  have hpos := h.batchSize_pos
  have hlt : s.position < s.hits.length := of_decide_eq_true hnext
  have hlength : (s.nextHits.map (s.shownBy recordOf)).length =
      min s.batchSize (s.hits.length - s.position) := by
    rw [List.length_map, nextHits, List.length_take, List.length_drop]
  refine ⟨⟨h.fetches, hpos, Nat.le_refl _, Nat.le_add_right _ _, ?_⟩, by omega⟩
  show s.nextHits.map (s.shownBy recordOf) =
    ((s.hits.map (s.shownBy recordOf)).drop s.position).take
      (s.nextHits.map (s.shownBy recordOf)).length
  rw [hlength, ← List.map_drop, ← List.map_take, ← List.length_drop, ← List.take_eq_take_min]
  rfl

/-- **One step of a stream is one step along its list.**  Nothing is lost or
repeated where a batch ends. -/
theorem Gives.next {left : List Record} (h : s.Gives w.state left) :
    ∃ t, s.next.run w = ((.ok left.head?, t), w) ∧ t.Gives w.state left.tail := by
  obtain ⟨recordOf, hserved, rfl⟩ := h
  rw [List.tail_drop]
  unfold HitStream.next
  by_cases hnext : s.hasNext = true
  · simp only [StateT.run, hnext, Bool.not_true, Bool.false_eq_true, if_false]
    by_cases hinside : s.position < s.batchStart + s.batch.length
    · rw [if_pos hinside]
      obtain ⟨htake, hserved'⟩ := hserved.take hinside
      exact ⟨_, by rw [htake], recordOf, hserved', rfl⟩
    · -- the batch is used up, so the next one is fetched
      rw [if_neg hinside, hserved.fetchBatch]
      obtain ⟨hserved', hpos⟩ := hserved.refilled hnext
      obtain ⟨htake, hserved''⟩ := hserved'.take (Nat.lt_add_of_pos_right hpos)
      refine ⟨_, ?_, recordOf, hserved'', rfl⟩
      show ((Except.ok (s.refilled _).take.1, (s.refilled _).take.2), w) = _
      rw [htake]
      rfl
  · have hend : s.hits.length ≤ s.position := by
      have hlt : ¬ s.position < s.hits.length := fun hlt => hnext (decide_eq_true hlt)
      omega
    have hnil : (s.hits.map (s.shownBy recordOf)).drop s.position = [] := by
      rw [List.drop_eq_nil_iff, List.length_map]
      exact hend
    have hnil' : (s.hits.map (s.shownBy recordOf)).drop (s.position + 1) = [] := by
      rw [List.drop_eq_nil_iff, List.length_map]
      omega
    simp only [StateT.run, hnext, Bool.not_false, if_true, hnil, hnil']
    exact ⟨s, rfl, recordOf, hserved, hnil.symm⟩

/-- A stream has a next record exactly if its list is not at its end. -/
theorem Gives.hasNext_iff {state : σ} {left : List Record} (h : s.Gives state left) :
    s.hasNext = true ↔ left ≠ [] := by
  obtain ⟨recordOf, _, rfl⟩ := h
  rw [hasNext, decide_eq_true_iff, ne_eq, List.drop_eq_nil_iff, List.length_map]
  omega

theorem Gives.length_le {state : σ} {left : List Record} (h : s.Gives state left) :
    left.length ≤ s.hits.length := by
  obtain ⟨recordOf, _, rfl⟩ := h
  rw [List.length_drop, List.length_map]
  omega

end Steps

end HitStream

end PipeQuery
