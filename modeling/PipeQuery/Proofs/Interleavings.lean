import PipeQuery.Proofs.Merging
import PipeQuery.Proofs.FieldPages

/-!
# Merges are interleavings

Several sources are merged head by head, and what comes of that is a list that
their records were put into one by one (`Interleaving`): every record is there
exactly once, and the records of each source are in the order of that source.
That takes nothing from the comparator.

* `Interleaving.perm` and `Interleaving.sublist`: what an interleaving is.
* `MultiStream.Merges.interleaving`: every merge is one, by induction on its
  steps.
* `Comparator.exists_rankedBy`: each comparator that there is ranks records by a
  key, so it is transitive, it can compare any two records, and missing values
  have their place in it.
* `MultiStream.drain_merged`: the merged stream gives an interleaving to its end,
  and of sources that are in the order of the comparator it gives the stable sort
  of the sources one after the other.
-/

namespace PipeQuery

/-! ## Interleavings -/

/-- The lists are put into one by taking, again and again, the head of one of
them. -/
inductive Interleaving {α : Type} : List (List α) → List α → Prop
  /-- All lists are at their end. -/
  | done {queues : List (List α)} (hnil : ∀ queue ∈ queues, queue = []) : Interleaving queues []
  /-- One of the lists gives its head. -/
  | pick {before after : List (List α)} {a : α} {rest merged : List α}
      (hrest : Interleaving (before ++ rest :: after) merged) :
      Interleaving (before ++ (a :: rest) :: after) (a :: merged)

namespace Interleaving

variable {α : Type} {queues : List (List α)} {merged : List α}

/-- Every item is there exactly once. -/
theorem perm (h : Interleaving queues merged) : merged.Perm queues.flatten := by
  induction h with
  | done hnil => rw [flatten_eq_nil_of_forall hnil]
  | @pick before after a rest merged _ ih =>
      rw [List.flatten_append, List.flatten_cons] at ih ⊢
      rw [List.cons_append]
      exact (ih.cons a).trans List.perm_middle.symm

/-- Each list keeps its order. -/
theorem sublist (h : Interleaving queues merged) : ∀ queue ∈ queues, queue.Sublist merged := by
  induction h with
  | done hnil =>
      intro queue hqueue
      rw [hnil queue hqueue]
  | @pick before after a rest merged _ ih =>
      intro queue hqueue
      rcases List.mem_append.1 hqueue with hbefore | hqueue
      · exact (ih queue (by simp [hbefore])).cons a
      · rcases List.mem_cons.1 hqueue with rfl | hafter
        · exact (ih rest (by simp)).cons_cons a
        · exact (ih queue (by simp [hafter])).cons a

end Interleaving

/-- **A merge is an interleaving**, whatever the comparator. -/
theorem MultiStream.Merges.interleaving {c : Comparator} {queues : List (List Record)}
    {merged : List Record} (h : MultiStream.Merges c queues merged) :
    Interleaving queues merged := by
  induction h with
  | done hnil => exact .done hnil
  | pick _ _ ih => exact .pick ih

/-! ## Comparators -/

namespace Comparator

/-- No record is behind one that comes after it. -/
def Ascends (c : Comparator) (l : List Record) : Prop := l.Pairwise fun a b => c a b ≠ .gt

/-- Neither record is behind the other. -/
def ties (c : Comparator) (a b : Record) : Bool := c a b != .gt && c b a != .gt

variable {κ : Type} [LinearOrder κ] {c : Comparator} {key : Record → κ} {l : List Record}

/-- **Each comparator ranks records by a key**: by their scores, if these are
numbers; by their instants, with those without one last; by the texts of a
field, with those without it below all texts. -/
theorem exists_rankedBy (o : SortOrder) (hscores : o.key = .score → ScoresAreNumbers l) :
    ∃ (κ : Type) (_ : LinearOrder κ) (key : Record → κ), (ofOrder o).RankedBy key l := by
  obtain ⟨key, descending⟩ := o
  cases key with
  | score => exact ⟨_, _, _, ofOrder_rankedBy rfl (hscores rfl)⟩
  | timestamp => exact ⟨_, _, _, fun a _ b _ => byTimestamp_eq_gt descending a b⟩
  | field name =>
      cases descending with
      | true =>
          refine ⟨(WithBot String)ᵒᵈ, inferInstance,
            fun r => OrderDual.toDual (r.fieldText name), fun a _ b _ => ?_⟩
          exact byField_eq_gt name true a b
      | false =>
          refine ⟨WithBot String, inferInstance, Record.fieldText name, fun a _ b _ => ?_⟩
          exact byField_eq_gt name false a b

theorem RankedBy.ascends_iff (h : c.RankedBy key l) : c.Ascends l ↔ AscendingBy key l := by
  refine List.Pairwise.iff_of_mem fun {a b} ha hb => ?_
  rw [ne_eq, h a ha b hb, not_lt]

theorem RankedBy.ties_iff (h : c.RankedBy key l) {a b : Record} (ha : a ∈ l) (hb : b ∈ l) :
    c.ties a b = true ↔ key b = key a := by
  rw [ties, Bool.and_eq_true, bne_iff_ne, bne_iff_ne, ne_eq, ne_eq, h a ha b hb, h b hb a ha,
    not_lt, not_lt]
  exact ⟨fun hle => le_antisymm hle.2 hle.1, fun heq => ⟨heq.ge, heq.le⟩⟩

/-- Sorting puts records in order and keeps the order of those that tie. -/
theorem RankedBy.stable (h : c.RankedBy key l) :
    c.Ascends (c.sort l) ∧ ∀ r ∈ l, (c.sort l).filter (c.ties r) = l.filter (c.ties r) := by
  rw [sort_eq_sortBy h]
  have hsorted : c.RankedBy key (sortBy key l) := h.mono fun a ha => (mem_sortBy key).1 ha
  refine ⟨hsorted.ascends_iff.2 (pairwise_sortBy key l), fun r hr => ?_⟩
  have hties : ∀ m : List Record, (∀ a ∈ m, a ∈ l) → m.filter (c.ties r) = withKey key (key r) m := by
    intro m hm
    refine List.filter_congr fun a ha => ?_
    rw [Bool.eq_iff_iff, h.ties_iff hr (hm a ha), decide_eq_true_iff]
  rw [hties _ fun a ha => (mem_sortBy key).1 ha, hties l fun _ ha => ha, filter_sortBy]

end Comparator

/-! ## Merged streams -/

namespace MultiStream

variable {σ : Type}

/-- **What a merged stream gives to its end.**  The sources give any lists, in
any order and of any length, and the comparator is one by score, where the scores
are numbers, by instant, or by a field, in either direction.  Then each record of
each source is given exactly once and the order of each source is kept; and if
each source is in the order of the comparator, what is given is the stable sort
of the sources one after the other: records that tie come in the order of their
sources. -/
theorem drain_merged (o : SortOrder) {sources : List (HitStream σ)} {queues : List (List Record)}
    {w : World σ} (hserve : Serve sources w.state queues)
    (hscores : o.key = .score → Comparator.ScoresAreNumbers queues.flatten) :
    ∃ merged t,
      (start sources (some (Comparator.ofOrder o))).drain.run w = ((.ok merged, t), w) ∧
      Interleaving queues merged ∧
      ((∀ queue ∈ queues, (Comparator.ofOrder o).Ascends queue) →
        merged = (Comparator.ofOrder o).sort queues.flatten ∧
        (Comparator.ofOrder o).Ascends merged ∧
        ∀ r ∈ queues.flatten, merged.filter ((Comparator.ofOrder o).ties r) =
          queues.flatten.filter ((Comparator.ofOrder o).ties r)) := by
  obtain ⟨merged, hmerged⟩ := exists_merges (Comparator.ofOrder o) queues
  have hyields : Yields w.state merged (start sources (some (Comparator.ofOrder o))) :=
    hmerged.yields hserve rfl rfl
  have hcount : merged.length ≤ (start sources (some (Comparator.ofOrder o))).left := by
    rw [hmerged.interleaving.perm.length_eq]
    exact Serve.length_le_left hserve
  obtain ⟨t, hdrain⟩ := hyields.drain hcount
  refine ⟨merged, t, hdrain, hmerged.interleaving, fun hascends => ?_⟩
  obtain ⟨κ, _, key, hkey⟩ := Comparator.exists_rankedBy o hscores
  have hqueues : ∀ queue ∈ queues, AscendingBy key queue := by
    intro queue hqueue
    have hrest := hkey.mono fun a ha => List.mem_flatten.2 ⟨queue, hqueue, ha⟩
    exact hrest.ascends_iff.1 (hascends queue hqueue)
  have hsort : merged = (Comparator.ofOrder o).sort queues.flatten := by
    rw [Comparator.sort_eq_sortBy hkey]
    exact hmerged.eq_sortBy hkey hqueues
  rw [hsort]
  exact ⟨rfl, hkey.stable⟩

/-! ### Sources that are lists -/

/-- The record at a place of a list. -/
def itemOf (records : List Record) (place : Int) : Record := records[place.toNat]?.getD default

/-- A record as a source gives it. -/
def givenBy (collection : String) (r : Record) : Record := r.withHit r.score collection

/-- The hits on all records of a list. -/
def listHits (records : List Record) : List Hit :=
  records.zipIdx.map fun p => ⟨p.2, p.1.score⟩

/-- A stream of a source that has its records in a list. -/
def listStream (batchSize : Nat) (collection : String) (records : List Record) : HitStream σ :=
  .atStart (fun places => pure (places.map (itemOf records))) (listHits records) collection
    batchSize

/-- The hits on a list stand for its records, with the name of the source. -/
theorem map_listHits (collection : String) (records : List Record) :
    ((listHits records).map fun h => (itemOf records h.number).withHit h.score collection) =
      records.map (givenBy collection) := by
  have hrecord : ∀ p ∈ records.zipIdx,
      (itemOf records p.2).withHit p.1.score collection = givenBy collection p.1 := by
    intro p hp
    rw [itemOf, Int.toNat_natCast, List.mem_zipIdx_iff_getElem?.1 hp]
    rfl
  calc ((listHits records).map fun h => (itemOf records h.number).withHit h.score collection)
      = records.zipIdx.map fun p => givenBy collection p.1 := by
        rw [listHits, List.map_map]
        exact List.map_congr_left hrecord
    _ = (records.zipIdx.map Prod.fst).map (givenBy collection) := by
        rw [List.map_map]
        rfl
    _ = records.map (givenBy collection) := by rw [List.zipIdx_map_fst]

/-- It gives these records, with the name of the source. -/
theorem gives_listStream {batchSize : Nat} (hsize : 0 < batchSize) (state : σ)
    (collection : String) (records : List Record) :
    (listStream batchSize collection records).Gives state (records.map (givenBy collection)) := by
  rw [← map_listHits]
  refine HitStream.gives_atStart hsize (fun part _ => ?_) collection
  rw [Call.on_pure, List.map_map]
  rfl

/-- Any lists are given by sources. -/
theorem serve_listStreams {batchSize : Nat} (hsize : 0 < batchSize) (state : σ)
    (lists : List (String × List Record)) :
    Serve (lists.map fun l => listStream batchSize l.1 l.2) state
      (lists.map fun l => l.2.map (givenBy l.1)) := by
  rw [Serve, List.forall₂_map_left_iff, List.forall₂_map_right_iff, List.forall₂_same]
  exact fun l _ => gives_listStream hsize state l.1 l.2

/-- A record with a score. -/
def scored (raw : String) (score : Int) : Record :=
  { (default : Record) with raw := raw, score := .ofInt score }

/-- Three sources in descending order of scores, one of them without records. -/
def scoredLists : List (String × List Record) :=
  [("app", [scored "a" 5, scored "b" 2]), ("idle", []), ("db", [scored "c" 5, scored "d" 3])]

/-- What comes of them, best scores first. -/
theorem sorted_scoredLists :
    (Comparator.ofOrder ⟨.score, true⟩).sort
        (scoredLists.map fun l => l.2.map (givenBy l.1)).flatten =
      [givenBy "app" (scored "a" 5), givenBy "db" (scored "c" 5), givenBy "db" (scored "d" 3),
        givenBy "app" (scored "b" 2)] := by
  -- five comparisons settle the order
  have hsort : ∀ (c : Comparator) (r₁ r₂ r₃ r₄ : Record), c r₁ r₂ ≠ .gt → c r₃ r₄ ≠ .gt →
      c r₁ r₃ ≠ .gt → c r₂ r₃ = .gt → c r₂ r₄ = .gt → c.sort [r₁, r₂, r₃, r₄] = [r₁, r₃, r₄, r₂] := by
    intro c r₁ r₂ r₃ r₄ h₁₂ h₃₄ h₁₃ h₂₃ h₂₄
    simp [Comparator.sort, List.mergeSort, List.MergeSort.Internal.splitInTwo, h₁₂, h₃₄, h₁₃, h₂₃,
      h₂₄]
  refine hsort _ _ _ _ _ ?_ ?_ ?_ ?_ ?_
  · decide +kernel
  · decide +kernel
  · decide +kernel
  · decide +kernel
  · decide +kernel

/-- Of two records with the same score, that of the earlier source comes first. -/
theorem drain_scoredLists :
    ∃ t, (start (scoredLists.map fun l => listStream 1 l.1 l.2)
        (some (Comparator.ofOrder ⟨.score, true⟩))).drain.run (⟨(), []⟩ : World Unit) =
      ((.ok [givenBy "app" (scored "a" 5), givenBy "db" (scored "c" 5), givenBy "db" (scored "d" 3),
        givenBy "app" (scored "b" 2)], t), ⟨(), []⟩) := by
  have hserve := serve_listStreams (Nat.one_pos) () scoredLists
  obtain ⟨merged, t, hdrain, _, hsorted⟩ := drain_merged ⟨.score, true⟩ (w := ⟨(), []⟩) hserve
    (fun _ => by unfold Comparator.ScoresAreNumbers; decide +kernel)
  obtain ⟨hmerged, -, -⟩ := hsorted (by unfold Comparator.Ascends; decide +kernel)
  rw [hmerged, sorted_scoredLists] at hdrain
  exact ⟨t, hdrain⟩

end MultiStream

end PipeQuery
