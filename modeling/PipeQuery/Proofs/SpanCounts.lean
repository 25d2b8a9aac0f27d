import PipeQuery.Proofs.Calendar
import PipeQuery.Proofs.Tallies
import Mathlib.Algebra.BigOperators.Ring.Finset

/-!
# Every instant in its span

A chart over time counts records by the start of their span, and finds out only in
the end which spans it shows: those from the first instant to the last.  So two things
have to be told of it: no record lies in a span that is not shown, and each lies in
one series and one span.

* `TimeChartStage.spanStart_eq_iff`: a span has the instants of one quotient.
* `TimeChartStage.keys_seriesOf`, `TimeChartStage.values_seriesOf`: the series, each
  span by span.
* `TimeChartStage.sum_countP_spans`: the spans that are shown have all instants
  between them.
* `TimeChartStage.counts_spans`: the chart of any records, said without a run
  (`TimeChartStage.CountsSpans`).
-/

namespace PipeQuery

/-- A whole number; it is 0 for others, which charts over time do not show. -/
def Number.whole : Number → Int
  | .integer n => n
  | .binary _ => 0

namespace TimeChart

/-- What all series show in a span. -/
def inSpan (c : TimeChart) (i : Nat) : Int :=
  (c.series.values.map fun values => (values[i]?.map Number.whole).getD 0).sum

/-- What all series show in all spans. -/
def total (c : TimeChart) : Int :=
  (c.series.values.map fun values => (values.map Number.whole).sum).sum

end TimeChart

namespace TimeChartStage

/-- The instants of the records that have one. -/
def instants (records : List Record) : List Int := records.filterMap Record.millis?

/-- The records that have an instant. -/
def timed (records : List Record) : List Record := records.filter fun r => r.millis?.isSome

/-- The number of the span that a record lies in; it is negative before the epoch. -/
def spanOf? (s : TimeChartStage) (r : Record) : Option Int :=
  r.millis?.map fun millis => millis / (s.spanMillis : Int)

/-- The name that a record is counted by: its value of the field that splits the
chart, or `count` if there is no such field or the record has none. -/
def nameOf (s : TimeChartStage) (r : Record) : String :=
  match s.splitBy with
  | none => "count"
  | some field =>
    match r.get? field with
    | none => "count"
    | some value => value

/-- How many records have a name and lie in a span. -/
def countIn (s : TimeChartStage) (records : List Record) (name : String) (span : Int) : Nat :=
  records.countP fun r => s.nameOf r = name ∧ s.spanOf? r = some span

/-- The chart counts the records in the spans from the first to the last. -/
structure CountsSpans (s : TimeChartStage) (records : List Record) (first last : Int)
    (c : TimeChart) : Prop where
  labels : (c.labels.length : Int) = last - first + 1
  /-- There is a series for each name, in the order in which they first come. -/
  names : c.series.keys = firstOccurrences ((timed records).map s.nameOf)
  /-- A series has a value for each label: the records with its name in that span. -/
  values : ∀ name ∈ c.series.keys, c.series.get? name =
    some ((List.range c.labels.length).map fun i => .integer (s.countIn records name (first + i)))
  first_counted : 0 < c.inSpan 0
  last_counted : 0 < c.inSpan (c.labels.length - 1)
  total : c.total = (timed records).length

section

variable {s : TimeChartStage}

/-! ## Records in spans -/

/-- The start of a span tells the quotient of its instants, also before the epoch. -/
theorem spanStart_eq_iff (hspan : 0 < s.spanMillis) {millis k : Int} :
    s.spanStart millis = k * s.spanMillis ↔ millis / s.spanMillis = k :=
  Int.mul_eq_mul_right_iff (by omega)

theorem seriesName_eq (r : Record) : s.seriesName r = s.nameOf r := by
  unfold seriesName nameOf
  cases s.splitBy with
  | none => rfl
  | some field => cases h : r.get? field <;> simp [h, defaultSeries]

theorem mem_timed {records : List Record} {r : Record} :
    r ∈ timed records ↔ r ∈ records ∧ ∃ millis, r.millis? = some millis := by
  rw [timed, List.mem_filter, Option.isSome_iff_exists]

/-- A record with an instant is counted by the name of its series. -/
theorem map_fst_placed (records : List Record) :
    (records.filterMap s.placed?).map Prod.fst = (timed records).map s.nameOf := by
  induction records with
  | nil => rfl
  | cons r rest ih =>
      cases h : r.millis? with
      | none =>
          rw [timed, List.filter_cons_of_neg (by simp [h]),
            List.filterMap_cons_none (s.placed?_of_none h)]
          exact ih
      | some millis =>
          rw [timed, List.filter_cons_of_pos (by simp [h]),
            List.filterMap_cons_some (s.placed?_of_some h), List.map_cons, List.map_cons,
            seriesName_eq]
          exact congrArg _ ih

/-- The instants of a series in a span are those of the records. -/
theorem countP_placed (hspan : 0 < s.spanMillis) (records : List Record) (name : String) (k : Int) :
    (((records.filterMap s.placed?).filter fun p => p.1 = name).countP fun p =>
      s.spanStart p.2 = k * s.spanMillis) = s.countIn records name k := by
  rw [List.countP_filter, List.countP_filterMap, countIn]
  refine List.countP_congr fun r _ => ?_
  cases h : r.millis? with
  | none => simp [s.placed?_of_none h, spanOf?, h]
  | some millis =>
      simp [s.placed?_of_some h, seriesName_eq, spanOf?, h, spanStart_eq_iff hspan, and_comm]

/-- **All series of a span** show its records. -/
theorem sum_countIn_names (records : List Record) (span : Int) :
    ((firstOccurrences ((timed records).map s.nameOf)).map fun name =>
      s.countIn records name span).sum = records.countP fun r => s.spanOf? r = some span := by
  have hfilter : ∀ name, s.countIn records name span =
      (records.filter fun r => s.spanOf? r = some span).countP fun r => s.nameOf r = name := by
    intro name
    rw [List.countP_filter, countIn]
    exact List.countP_congr fun r _ => by simp
  rw [List.countP_eq_length_filter]
  simp only [hfilter]
  refine sum_countP_of_nodup s.nameOf (nodup_firstOccurrences _) fun r hr => ?_
  obtain ⟨hmem, hspan⟩ := List.mem_filter.1 hr
  obtain ⟨millis, hmillis, -⟩ := Option.map_eq_some_iff.1 (of_decide_eq_true hspan)
  exact mem_firstOccurrences.2 (List.mem_map_of_mem (mem_timed.2 ⟨hmem, millis, hmillis⟩))

/-- **All spans of a series** show its records, if all instants lie in them. -/
theorem sum_countIn_spans {records : List Record} {first : Int} {n : Nat}
    (hspans : ∀ r ∈ records, ∀ span, s.spanOf? r = some span → first ≤ span ∧ span < first + n)
    (name : String) :
    ((List.range n).map fun i : Nat => s.countIn records name (first + i)).sum =
      (timed records).countP fun r => s.nameOf r = name := by
  have hfilter : ∀ i : Nat, s.countIn records name (first + i) =
      ((timed records).filter fun r => s.nameOf r = name).countP fun r =>
        s.spanOf? r = some (first + i) := by
    intro i
    rw [timed, List.filter_filter, List.countP_filter, countIn]
    refine List.countP_congr fun r _ => ?_
    cases h : r.millis? <;> simp [spanOf?, h, and_comm]
  have hnodup : ((List.range n).map fun i : Nat => some (first + (i : Int))).Nodup :=
    (List.nodup_range).map fun i j h => by simpa using h
  rw [List.countP_eq_length_filter, ← sum_countP_of_nodup s.spanOf? hnodup fun r hr => ?_]
  · simp only [hfilter, List.map_map, Function.comp_def]
  · obtain ⟨hmem, millis, hmillis⟩ := mem_timed.1 (List.mem_of_mem_filter hr)
    have hspan : s.spanOf? r = some (millis / s.spanMillis) := by rw [spanOf?, hmillis]; rfl
    obtain ⟨hlow, hhigh⟩ := hspans r hmem _ hspan
    rw [hspan, List.mem_map]
    exact ⟨(millis / s.spanMillis - first).toNat, List.mem_range.2 (by omega), by congr 1; omega⟩

/-! ## The chart -/

/-- The series are in the order in which their names first come. -/
theorem keys_seriesOf (records : List Record) :
    (s.seriesOf (records.filterMap s.placed?)).keys =
      firstOccurrences ((timed records).map s.nameOf) := by
  rw [seriesOf, OrderedMap.keys_foldl _ Prod.fst fun m p => by
    rw [OrderedMap.update, OrderedMap.keys_insert], map_fst_placed]
  simp

theorem length_spanStarts (low high : Int) : (s.spanStarts low high).length =
    (high / s.spanMillis - low / s.spanMillis + 1).toNat := by
  rw [spanStarts, List.length_map, List.length_range]

/-- A series of the chart has a value for each of its spans. -/
theorem get?_shownSeries (hspan : 0 < s.spanMillis) (records : List Record) (low high : Int)
    {name : String} (hname : name ∈ (timed records).map s.nameOf) :
    ((s.seriesOf (records.filterMap s.placed?)).get? name).map
        (shownCounts (s.spanStarts low high)) =
      some ((List.range (s.spanStarts low high).length).map fun i : Nat =>
        .integer (s.countIn records name (low / s.spanMillis + i))) := by
  have hsome : ((records.filterMap s.placed?).filter fun p => p.1 = name) ≠ [] := by
    rw [← map_fst_placed, List.mem_map] at hname
    obtain ⟨p, hp, hpname⟩ := hname
    exact List.ne_nil_of_mem (List.mem_filter.2 ⟨hp, decide_eq_true hpname⟩)
  rw [get?_seriesOf, if_neg hsome, length_spanStarts, spanStarts, List.map_map]
  simp only [Function.comp_def, countP_placed hspan]

section Counted

variable {records : List Record} {first : Int} {c : TimeChart}
  (hnames : c.series.keys = firstOccurrences ((timed records).map s.nameOf))
  (hvalues : ∀ name ∈ c.series.keys, c.series.get? name = some ((List.range c.labels.length).map
    fun i => .integer (s.countIn records name (first + i))))

include hnames hvalues

theorem inSpan_eq {i : Nat} (hi : i < c.labels.length) :
    c.inSpan i = (records.countP fun r => s.spanOf? r = some (first + i) : Nat) := by
  rw [TimeChart.inSpan, OrderedMap.values_eq_map hvalues, hnames, List.map_map,
    ← sum_countIn_names, Nat.cast_list_sum, List.map_map]
  refine congrArg List.sum (List.map_congr_left fun name _ => ?_)
  simp [hi, Number.whole]

theorem total_eq (hspans : ∀ r ∈ records, ∀ span, s.spanOf? r = some span →
    first ≤ span ∧ span < first + c.labels.length) : c.total = (timed records).length := by
  have hsum : ∀ name, ((((List.range c.labels.length).map fun i : Nat =>
      Number.integer (s.countIn records name (first + i))).map Number.whole).sum : Int) =
      ((timed records).countP fun r => s.nameOf r = name : Nat) := by
    intro name
    rw [← sum_countIn_spans hspans, Nat.cast_list_sum, List.map_map, List.map_map]
    rfl
  rw [TimeChart.total, OrderedMap.values_eq_map hvalues, hnames, List.map_map]
  simp only [Function.comp_def, hsum]
  rw [← sum_countP_of_nodup s.nameOf (nodup_firstOccurrences _)
      fun r hr => mem_firstOccurrences.2 (List.mem_map_of_mem hr), Nat.cast_list_sum, List.map_map]
  rfl

end Counted

/-- A span with a record in it is not empty. -/
theorem countP_spanOf?_pos {records : List Record} {millis : Int} (h : millis ∈ instants records) :
    0 < records.countP fun r => s.spanOf? r = some (millis / s.spanMillis) := by
  obtain ⟨r, hr, hmillis⟩ := List.mem_filterMap.1 h
  exact List.countP_pos_iff.2 ⟨r, hr, by simp [spanOf?, hmillis]⟩

/-- No record lies in a span before that of the least instant, or behind that of the
greatest. -/
theorem spanOf?_between (hspan : 0 < s.spanMillis) {records : List Record} {low high : Int}
    (hlow : IsLeast {millis | millis ∈ instants records} low)
    (hhigh : IsGreatest {millis | millis ∈ instants records} high) :
    ∀ r ∈ records, ∀ span, s.spanOf? r = some span →
      low / s.spanMillis ≤ span ∧ span ≤ high / s.spanMillis := by
  intro r hr span hrspan
  obtain ⟨millis, hmillis, rfl⟩ := Option.map_eq_some_iff.1 hrspan
  have hmem : millis ∈ instants records := List.mem_filterMap.2 ⟨r, hr, hmillis⟩
  exact ⟨Int.ediv_le_ediv (by omega) (hlow.2 hmem), Int.ediv_le_ediv (by omega) (hhigh.2 hmem)⟩

/-- The spans from the first instant to the last. -/
theorem countsSpans_shown (hspan : 0 < s.spanMillis) {records : List Record} {low high : Int}
    (hlow : IsLeast {millis | millis ∈ instants records} low)
    (hhigh : IsGreatest {millis | millis ∈ instants records} high) {labels : List String}
    (hlabels : labels.length = (s.spanStarts low high).length) (sourceHits : Int) :
    s.CountsSpans records (low / s.spanMillis) (high / s.spanMillis)
      ⟨labels, (s.seriesOf (records.filterMap s.placed?)).mapValues
        (shownCounts (s.spanStarts low high)), sourceHits⟩ := by
  have hends : low / s.spanMillis ≤ high / s.spanMillis :=
    Int.ediv_le_ediv (by omega) (hlow.2 hhigh.1)
  generalize hc : (⟨labels, _, sourceHits⟩ : TimeChart) = c
  have hnames : c.series.keys = firstOccurrences ((timed records).map s.nameOf) := by
    rw [← hc, OrderedMap.keys_mapValues, keys_seriesOf]
  have hvalues : ∀ name ∈ c.series.keys, c.series.get? name =
      some ((List.range c.labels.length).map fun i =>
        .integer (s.countIn records name (low / s.spanMillis + i))) := by
    intro name hname
    rw [hnames, mem_firstOccurrences] at hname
    rw [← hc, OrderedMap.get?_mapValues, get?_shownSeries hspan records low high hname, ← hlabels]
  have hlabelled : c.labels.length = (high / s.spanMillis - low / s.spanMillis + 1).toNat := by
    rw [← hc, hlabels, length_spanStarts]
  refine ⟨by omega, hnames, hvalues, ?_, ?_, ?_⟩
  · rw [inSpan_eq hnames hvalues (by omega), Int.natCast_zero, Int.add_zero]
    exact Int.natCast_pos.2 (countP_spanOf?_pos hlow.1)
  · have hlast :
        low / s.spanMillis + ((c.labels.length - 1 : Nat) : Int) = high / s.spanMillis := by omega
    rw [inSpan_eq hnames hvalues (by omega), hlast]
    exact Int.natCast_pos.2 (countP_spanOf?_pos hhigh.1)
  · refine total_eq hnames hvalues fun r hr span hrspan => ?_
    have hbetween := spanOf?_between hspan hlow hhigh r hr span hrspan
    omega

/-! ## Spans in UTC -/

/-- The spans of the records start in the years 1 to 9999. -/
def StartsInYears (s : TimeChartStage) (records : List Record) : Prop :=
  ∀ millis ∈ instants records,
    yearBegins 1 ≤ s.spanStart millis ∧ s.spanStart millis < yearBegins 10000

/-- The spans between two others start between them. -/
theorem StartsInYears.of_mem_spanStarts {records : List Record} (h : s.StartsInYears records)
    {low high : Int} (hlow : low ∈ instants records) (hhigh : high ∈ instants records) {start : Int}
    (hstart : start ∈ s.spanStarts low high) :
    yearBegins 1 ≤ start ∧ start < yearBegins 10000 := by
  obtain ⟨i, hi, rfl⟩ := List.mem_map.1 hstart
  rw [List.mem_range] at hi
  have hfirst : low / s.spanMillis * s.spanMillis ≤ (low / s.spanMillis + i) * s.spanMillis :=
    Int.mul_le_mul_of_nonneg_right (by omega) (by omega)
  have hlast : (low / s.spanMillis + i) * s.spanMillis ≤ high / s.spanMillis * s.spanMillis :=
    Int.mul_le_mul_of_nonneg_right (by omega) (by omega)
  exact ⟨(h low hlow).1.trans hfirst, hlast.trans_lt (h high hhigh).2⟩

/-- In UTC, spans of whole seconds have labels in these years. -/
theorem StartsInYears.hasLabels {records : List Record} (h : s.StartsInYears records)
    (hzone : s.zone = .utc) (hseconds : 1000 ∣ s.spanMillis) : s.HasLabels records := by
  intro r hr r' hr' first last hfirst hlast start hstart
  have hyears := h.of_mem_spanStarts (List.mem_filterMap.2 ⟨r, hr, hfirst⟩)
    (List.mem_filterMap.2 ⟨r', hr', hlast⟩) hstart
  obtain ⟨i, -, rfl⟩ := List.mem_map.1 hstart
  rw [hzone]
  exact (label_utc_iff (Dvd.dvd.mul_left (Int.natCast_dvd_natCast.2 hseconds) _)).2
    (yearAt_iff.2 hyears)

/-! ## Any records -/

/-- The chart of records whose spans have labels: it is empty, or has the spans from the
least to the greatest instant. -/
theorem bucket_of_hasLabels {records : List Record} (hlabels : s.HasLabels records) :
    (∀ r ∈ records, r.millis? = none) ∧ s.bucket records = .ok ⟨[], .empty, records.length⟩ ∨
      ∃ low high labels, IsLeast {millis | millis ∈ instants records} low ∧
        IsGreatest {millis | millis ∈ instants records} high ∧
        (s.spanStarts low high).mapM (label s.zone) = .ok labels ∧
        s.bucket records = .ok ⟨labels, (s.seriesOf (records.filterMap s.placed?)).mapValues
          (shownCounts (s.spanStarts low high)), records.length⟩ := by
  have hinstants :
      instantsOf (records.filterMap s.placed?) = {millis | millis ∈ instants records} :=
    Set.ext fun _ => mem_instantsOf.trans List.mem_filterMap.symm
  have hrange := isRange_rangeOf (records.filterMap s.placed?)
  rw [hinstants] at hrange
  simp only [bucket, counts_eq]
  cases hends : rangeOf (records.filterMap s.placed?) with
  | none =>
      rw [hends] at hrange
      refine .inl ⟨List.filterMap_eq_nil_iff.1 ?_, rfl⟩
      exact List.eq_nil_iff_forall_not_mem.2 (Set.eq_empty_iff_forall_notMem.1 hrange)
  | some ends =>
      obtain ⟨low, high⟩ := ends
      rw [hends] at hrange
      obtain ⟨labels, hmapM⟩ := hlabels.mapM_spanStarts hends
      exact .inr ⟨low, high, labels, hrange.1, hrange.2, hmapM, by simp only [hmapM]; rfl⟩

/-- **A chart over time counts every instant once**: the spans are those from the
least to the greatest instant, and each series has the number of its records in each of
them. -/
theorem counts_spans (hspan : 0 < s.spanMillis) {records : List Record}
    (hlabels : s.HasLabels records) :
    ∃ c, s.bucket records = .ok c ∧ c.sourceHits = records.length ∧
      ((∀ r ∈ records, r.millis? = none) ∧ c.labels = [] ∧ c.series = .empty ∨
        ∃ low high, IsLeast {millis | millis ∈ instants records} low ∧
          IsGreatest {millis | millis ∈ instants records} high ∧
          s.CountsSpans records (low / s.spanMillis) (high / s.spanMillis) c) := by
  rcases bucket_of_hasLabels hlabels with
    ⟨hnone, hbucket⟩ | ⟨low, high, labels, hlow, hhigh, hmapM, hbucket⟩
  · exact ⟨_, hbucket, rfl, .inl ⟨hnone, rfl, rfl⟩⟩
  · exact ⟨_, hbucket, rfl, .inr ⟨low, high, hlow, hhigh, countsSpans_shown hspan hlow hhigh
      (Except.length_of_mapM_eq_ok hmapM) _⟩⟩

end

/-- Spans of a minute, with a series for each level. -/
def aroundMidnight : TimeChartStage := ⟨60000, some "level", .utc, "UTC", ["count"]⟩

/-- The last second of 1969, no time at all, and a minute of 1970 without a level. -/
def nightRecords : List Record :=
  [{ (default : Record) with
      timestamp := some ⟨-1000000, 0⟩, fields := .ofList [("level", "warn")] },
    { (default : Record) with fields := .ofList [("level", "warn")] },
    { (default : Record) with timestamp := some ⟨61000000, 0⟩ }]

/-- Two of the records have an instant, in the first and the last of three spans:
one is counted as `warn`, the other one has no level. -/
theorem counts_spans_aroundMidnight :
    ∃ c, aroundMidnight.bucket nightRecords = .ok c ∧ c.sourceHits = 3 ∧ c.total = 2 ∧
      c.labels.length = 3 ∧ c.series.keys = ["warn", "count"] ∧
      c.series.get? "warn" = some [.integer 1, .integer 0, .integer 0] ∧
      c.series.get? "count" = some [.integer 0, .integer 0, .integer 1] ∧
      aroundMidnight.CountsSpans nightRecords (-1) 1 c := by
  have hinstants : instants nightRecords = [-1000, 61000] := by decide +kernel
  have hyears : aroundMidnight.StartsInYears nightRecords := by
    rw [StartsInYears, hinstants, yearBegins_eq (by decide), yearBegins_eq (by decide)]
    decide
  obtain ⟨c, hc, hhits, ⟨hnone, -⟩ | ⟨low, high, hlow, hhigh, hcounts⟩⟩ :=
    counts_spans (by decide) (hyears.hasLabels rfl (by decide))
  · exact absurd (hnone _ (List.mem_cons_self ..)) (by decide +kernel)
  · simp only [hinstants] at hlow hhigh
    obtain rfl : low = -1000 := hlow.unique ⟨by simp, by simp [lowerBounds]⟩
    obtain rfl : high = 61000 := hhigh.unique ⟨by simp, by simp [upperBounds]⟩
    have hlabels : (c.labels.length : Int) = 3 := hcounts.labels.trans (by decide)
    have hlabels : c.labels.length = 3 := by omega
    have hnames : c.series.keys = ["warn", "count"] :=
      hcounts.names.trans (by decide +kernel)
    have hvalues := hcounts.values
    rw [hnames, hlabels] at hvalues
    refine ⟨c, hc, hhits, hcounts.total, hlabels, hnames, ?_, ?_, hcounts⟩
    · exact (hvalues "warn" (by simp)).trans (by decide +kernel)
    · exact (hvalues "count" (by simp)).trans (by decide +kernel)

end TimeChartStage

end PipeQuery
