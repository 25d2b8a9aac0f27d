import PipeQuery.OrderedMap
import PipeQuery.Stage.TimeChart
import Mathlib.Data.List.Induction
import Mathlib.Data.List.Perm.Basic
import Mathlib.Order.Bounds.Basic

/-!
# What a chart over time counts

A chart counts each record in the span of its instant and in the series of its
name; what it has counted in the end is said here of all records that have an
instant (`TimeChartStage.foldl_add`).  Nothing of it depends on their order
(`TimeChartStage.bucket_of_perm`): a count is a number of records, and the first
and the last instant are the least and the greatest
(`TimeChartStage.isRange_rangeOf`).  Only the order of the series is that of the
records.
-/

namespace PipeQuery

/-- The charts differ in the order of their series only. -/
structure TimeChart.SameSeries (c c' : TimeChart) : Prop where
  labels : c.labels = c'.labels
  series : ∀ name, c.series.get? name = c'.series.get? name
  sourceHits : c.sourceHits = c'.sourceHits

namespace TimeChartStage

variable (s : TimeChartStage)

/-- The series and the instant of a record that has one. -/
def placed? (r : Record) : Option (String × Int) :=
  r.millis?.map fun millis => (s.seriesName r, millis)

theorem placed?_of_none {r : Record} (h : r.millis? = none) : s.placed? r = none := by
  rw [placed?, h, Option.map_none]

theorem placed?_of_some {r : Record} {millis : Int} (h : r.millis? = some millis) :
    s.placed? r = some (s.seriesName r, millis) := by
  rw [placed?, h, Option.map_some]

/-- Counts an instant. -/
def countAt (millis : Int) (counts : OrderedMap Int Nat) : OrderedMap Int Nat :=
  counts.update (s.spanStart millis) 0 (· + 1)

/-- A range that holds one more instant. -/
def widened (range : Option (Int × Int)) (millis : Int) : Option (Int × Int) :=
  some (match range with
    | none => (millis, millis)
    | some (low, high) => (min low millis, max high millis))

/-- The counts of some instants in some series. -/
def seriesOf (placed : List (String × Int)) : OrderedMap String (OrderedMap Int Nat) :=
  placed.foldl (fun series p => series.update p.1 .empty (s.countAt p.2)) .empty

/-- The range of some instants. -/
def rangeOf (placed : List (String × Int)) : Option (Int × Int) :=
  placed.foldl (fun range p => widened range p.2) none

theorem foldl_add (records : List Record) (c : Counts) :
    records.foldl (Counts.add s) c =
      { series := (records.filterMap s.placed?).foldl
          (fun series p => series.update p.1 .empty (s.countAt p.2)) c.series
        range := (records.filterMap s.placed?).foldl (fun range p => widened range p.2) c.range } := by
  induction records generalizing c with
  | nil => rfl
  | cons r rest ih =>
      rw [List.foldl_cons, ih, List.filterMap_cons]
      cases hmillis : r.millis? with
      | none => simp [placed?, Counts.add, hmillis]
      | some millis =>
          simp only [placed?, Counts.add, hmillis, Option.map_some, List.foldl_cons]
          rfl

/-- **What has been counted** is told by the series and instants of the records. -/
theorem counts_eq (records : List Record) :
    records.foldl (Counts.add s) ⟨.empty, none⟩ =
      ⟨s.seriesOf (records.filterMap s.placed?), rangeOf (records.filterMap s.placed?)⟩ :=
  s.foldl_add records ⟨.empty, none⟩

/-! ## Series -/

/-- A span has the number of instants in it. -/
theorem get?_foldl_countAt (placed : List (String × Int)) (start : Int) :
    ((placed.foldl (fun counts p => s.countAt p.2 counts) .empty).get? start).getD 0 =
      placed.countP fun p => s.spanStart p.2 = start := by
  unfold countAt
  rw [OrderedMap.get?_foldl_update (fun p : String × Int => s.spanStart p.2) (fun _ => 0)
    (fun _ n => n + 1) placed .empty start, List.countP_eq_length_filter]
  cases placed.filter fun p => decide (s.spanStart p.2 = start) with
  | nil => rfl
  | cons first rest =>
      simp [List.foldl_add_const]
      omega

/-- The counts of a series, span by span. -/
def shownCounts (starts : List Int) (counts : OrderedMap Int Nat) : List Number :=
  starts.map fun start => .integer ((counts.get? start).getD 0)

/-- **A series** shows, for each span, how many of its records lie in it. -/
theorem get?_seriesOf (starts : List Int) (placed : List (String × Int)) (name : String) :
    ((s.seriesOf placed).get? name).map (shownCounts starts) =
      if placed.filter (fun p => p.1 = name) = [] then none
      else some (starts.map fun start => .integer
        ((placed.filter fun p => p.1 = name).countP fun p => s.spanStart p.2 = start)) := by
  rw [seriesOf, OrderedMap.get?_foldl_update (fun p : String × Int => p.1)
    (fun _ => OrderedMap.empty) (fun p => s.countAt p.2) placed .empty name]
  cases placed.filter fun p => decide (p.1 = name) with
  | nil => rfl
  | cons first rest =>
      simp only [OrderedMap.get?_empty, Option.getD_none, Option.map_some, shownCounts,
        s.get?_foldl_countAt (first :: rest), reduceCtorEq, if_false]

/-! ## The range -/

theorem widened_right_comm (range : Option (Int × Int)) (x y : Int) :
    widened (widened range x) y = widened (widened range y) x := by
  cases range with
  | none => simp [widened, Int.min_comm, Int.max_comm]
  | some ends =>
      simp only [widened, Option.some.injEq, Prod.mk.injEq]
      omega

theorem rangeOf_append (placed : List (String × Int)) (p : String × Int) :
    rangeOf (placed ++ [p]) = widened (rangeOf placed) p.2 := by
  rw [rangeOf, List.foldl_append]
  rfl

/-- The instants that a range has been made of. -/
def instantsOf (placed : List (String × Int)) : Set Int := {millis | ∃ p ∈ placed, p.2 = millis}

theorem instantsOf_append (placed : List (String × Int)) (p : String × Int) :
    instantsOf (placed ++ [p]) = insert p.2 (instantsOf placed) := by
  ext millis
  simp [instantsOf, or_and_right, exists_or, eq_comm, or_comm]

/-- The ends of a range are the least and the greatest of its instants. -/
def IsRange (instants : Set Int) : Option (Int × Int) → Prop
  | none => instants = ∅
  | some (low, high) => IsLeast instants low ∧ IsGreatest instants high

theorem IsRange.widened {instants : Set Int} {range : Option (Int × Int)}
    (h : IsRange instants range) (millis : Int) :
    IsRange (insert millis instants) (widened range millis) := by
  cases range with
  | none =>
      rw [show instants = ∅ from h, insert_empty_eq]
      exact ⟨isLeast_singleton, isGreatest_singleton⟩
  | some ends =>
      obtain ⟨hlow, hhigh⟩ := h
      rw [TimeChartStage.widened, Int.min_comm, Int.max_comm]
      exact ⟨hlow.insert millis, hhigh.insert millis⟩

/-- **The range** of some instants is that of all of them. -/
theorem isRange_rangeOf (placed : List (String × Int)) :
    IsRange (instantsOf placed) (rangeOf placed) := by
  induction placed using List.reverseRecOn with
  | nil => exact Set.eq_empty_of_forall_notMem fun _ ⟨_, hp, _⟩ => nomatch hp
  | append_singleton rest p ih =>
      rw [instantsOf_append, rangeOf_append]
      exact ih.widened p.2

/-! ## The chart -/

/-- The start of every span between two of the records is a date that a label
can show. -/
def HasLabels (records : List Record) : Prop :=
  ∀ r ∈ records, ∀ r' ∈ records, ∀ first last, r.millis? = some first → r'.millis? = some last →
    ∀ start ∈ s.spanStarts first last, ∃ text, label s.zone start = .ok text

theorem mapM_label {zone : Zone} {starts : List Int}
    (h : ∀ start ∈ starts, ∃ text, label zone start = .ok text) :
    ∃ labels, starts.mapM (label zone) = .ok labels := by
  induction starts with
  | nil => exact ⟨[], rfl⟩
  | cons start rest ih =>
      obtain ⟨text, htext⟩ := h start (List.mem_cons_self ..)
      obtain ⟨labels, hlabels⟩ := ih fun start hstart => h start (List.mem_cons_of_mem _ hstart)
      exact ⟨text :: labels, by rw [List.mapM_cons, htext, hlabels]; rfl⟩

variable {s}

theorem HasLabels.of_perm {records records' : List Record} (h : records.Perm records')
    (hlabels : s.HasLabels records) : s.HasLabels records' :=
  fun r hr r' hr' => hlabels r (h.mem_iff.2 hr) r' (h.mem_iff.2 hr')

/-- The instants that a chart counts are those of the records. -/
theorem mem_instantsOf {records : List Record} {millis : Int} :
    millis ∈ instantsOf (records.filterMap s.placed?) ↔ ∃ r ∈ records, r.millis? = some millis := by
  constructor
  · rintro ⟨p, hp, rfl⟩
    obtain ⟨r, hr, hrp⟩ := List.mem_filterMap.1 hp
    obtain ⟨millis, hmillis, rfl⟩ := Option.map_eq_some_iff.1 hrp
    exact ⟨r, hr, hmillis⟩
  · rintro ⟨r, hr, hmillis⟩
    exact ⟨_, List.mem_filterMap.2 ⟨r, hr, s.placed?_of_some hmillis⟩, rfl⟩

/-- Spans with labels have a list of labels. -/
theorem HasLabels.mapM_spanStarts {records : List Record} (h : s.HasLabels records)
    {low high : Int} (hrange : rangeOf (records.filterMap s.placed?) = some (low, high)) :
    ∃ labels, (s.spanStarts low high).mapM (label s.zone) = .ok labels := by
  obtain ⟨hlow, hhigh⟩ : IsRange _ (some (low, high)) := hrange ▸ isRange_rangeOf _
  obtain ⟨r, hr, hlow⟩ := mem_instantsOf.1 hlow.1
  obtain ⟨r', hr', hhigh⟩ := mem_instantsOf.1 hhigh.1
  exact mapM_label (h r hr r' hr' low high hlow hhigh)

theorem rangeOf_of_perm {placed placed' : List (String × Int)} (h : placed.Perm placed') :
    rangeOf placed = rangeOf placed' :=
  h.foldl_eq' (fun p _ q _ range => widened_right_comm range p.2 q.2) none

theorem get?_seriesOf_of_perm {placed placed' : List (String × Int)} (h : placed.Perm placed')
    (starts : List Int) (name : String) :
    ((s.seriesOf placed).get? name).map (shownCounts starts) =
      ((s.seriesOf placed').get? name).map (shownCounts starts) := by
  have hmembers := h.filter fun p => decide (p.1 = name)
  have hnone := hmembers.length_eq
  rw [get?_seriesOf, get?_seriesOf]
  simp only [← List.length_eq_zero_iff, hnone, hmembers.countP_eq]

/-- **The order of the records shows in the order of the series only.**  If the
spans have labels, there is a chart. -/
theorem bucket_of_perm {records records' : List Record} (h : records.Perm records')
    (hlabels : s.HasLabels records) :
    ∃ c c', s.bucket records = .ok c ∧ s.bucket records' = .ok c' ∧ c.SameSeries c' := by
  have hplaced : (records.filterMap s.placed?).Perm (records'.filterMap s.placed?) := h.filterMap _
  have hhits : (records.length : Int) = records'.length := by rw [h.length_eq]
  simp only [bucket, counts_eq, ← rangeOf_of_perm hplaced]
  cases hrange : rangeOf (records.filterMap s.placed?) with
  | none => exact ⟨_, _, rfl, rfl, rfl, fun _ => rfl, hhits⟩
  | some ends =>
      obtain ⟨labels, hmapM⟩ := hlabels.mapM_spanStarts hrange
      simp only [hmapM]
      refine ⟨_, _, rfl, rfl, rfl, fun name => ?_, hhits⟩
      rw [OrderedMap.get?_mapValues, OrderedMap.get?_mapValues]
      exact get?_seriesOf_of_perm hplaced _ name

end TimeChartStage

end PipeQuery
