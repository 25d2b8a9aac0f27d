import PipeQuery.Platform.Standard
import PipeQuery.Proofs.Deliveries
import PipeQuery.Proofs.Measures
import PipeQuery.Proofs.Running
import Mathlib.Algebra.BigOperators.Ring.Finset

/-!
# What statistics mean

Statistics are run with a tally for each aggregation of each group.  Their table is
said here without any tally (`Stats.Tabulates`): the groups are the records with one
key (`Stats.groupsOf`), a row shows the values of its group and what each measure
means for it (`Stats.Shows`), and rows are in descending order (`Stats.Descends`).

* `Stats.distinct_of_build`: statistics that are built have different columns.
* `Stats.shows_rowOf`: a row shows what it should.
* `join_injective`: values without a separator are told apart by their key.
* `Stats.descends_sortRows`: rows are sorted by what a column shows.
* `Stats.sum_length_groups`: every record is in one group.
* `aggregates_naively`: all of it, for a stage that is built and any records.
-/

namespace PipeQuery

/-! ## What is built -/

theorem Aggregation.expression_of_read {expression : String} {a : Aggregation}
    (h : read expression = .ok a) : a.expression = expression := by
  unfold read at h
  split at h
  · cases h
    rfl
  · dsimp only at h
    split at h
    · cases h
    · split at h
      · cases h
      · cases h
        rfl

namespace Stats

variable {s : Stats}

/-- The columns of a table have different names within the fields and within the
aggregations, and there is an aggregation. -/
structure Distinct (s : Stats) : Prop where
  groupBy : s.groupBy.Nodup
  expressions : (s.aggregations.map Aggregation.expression).Nodup
  aggregations_ne_nil : s.aggregations ≠ []

theorem distinct_of_build {spec : StageSpec} (h : build spec = .ok s) : s.Distinct := by
  obtain ⟨first, rest, haggregations, -⟩ := sorts_of_build h
  obtain ⟨found, hfound, rfl⟩ := Except.exists_of_map_eq_ok (g := fun found => (⟨found, _⟩ : Stats)) h
  refine ⟨nodup_firstOccurrences _, ?_, by rw [haggregations]; exact List.cons_ne_nil _ _⟩
  rw [Except.map_read_of_mapM_eq_ok id (fun _ _ _ => Aggregation.expression_of_read) hfound,
    List.map_id]
  exact nodup_firstOccurrences _

end Stats

/-! ## Keys of groups -/

theorem append_cons_inj_of_notMem {α : Type} {mark : α} {before before' after after' : List α}
    (h : mark ∉ before) (h' : mark ∉ before')
    (heq : before ++ mark :: after = before' ++ mark :: after') :
    before = before' ∧ after = after' := by
  induction before generalizing before' with
  | nil =>
      cases before' with
      | nil => exact ⟨rfl, (List.cons.inj heq).2⟩
      | cons a before' => exact absurd (List.cons.inj heq).1 fun ha => h' (by simp [ha])
  | cons a before ih =>
      cases before' with
      | nil => exact absurd (List.cons.inj heq).1 fun ha => h (by simp [ha])
      | cons b before' =>
          obtain ⟨rfl, hrest⟩ := List.cons.inj heq
          obtain ⟨rfl, hafter⟩ := ih (fun hm => h (List.mem_cons_of_mem _ hm))
            (fun hm => h' (List.mem_cons_of_mem _ hm)) hrest
          exact ⟨rfl, hafter⟩

/-- The text is free of the separator. -/
def IsPlainValue (value : String) : Prop := '|' ∉ value.toList

/-- As many values without a separator are told apart by their key. -/
theorem join_injective {values values' : List String} (hlength : values.length = values'.length)
    (h : ∀ v ∈ values, IsPlainValue v) (h' : ∀ v ∈ values', IsPlainValue v)
    (heq : Text.join groupSeparator values = Text.join groupSeparator values') :
    values = values' := by
  induction values generalizing values' with
  | nil => exact (List.length_eq_zero_iff.1 hlength.symm).symm
  | cons v rest ih =>
      obtain ⟨v', rest', rfl⟩ := List.exists_cons_of_length_eq_add_one hlength.symm
      have hrest : rest.length = rest'.length := Nat.succ.inj hlength
      cases rest with
      | nil =>
          obtain rfl := List.length_eq_zero_iff.1 hrest.symm
          exact congrArg (fun v => [v]) heq
      | cons w rest =>
          obtain ⟨w', rest', rfl⟩ := List.exists_cons_of_length_eq_add_one hrest.symm
          have hchars := congrArg String.toList heq
          simp only [Text.join, String.toList_append, List.append_assoc] at hchars
          obtain ⟨hv, htail⟩ := append_cons_inj_of_notMem (h v (List.mem_cons_self ..))
            (h' v' (List.mem_cons_self ..)) hchars
          rw [String.toList_inj.1 hv, ih hrest (fun v hv => h v (List.mem_cons_of_mem _ hv))
            (fun v hv => h' v (List.mem_cons_of_mem _ hv)) (String.toList_inj.1 htail)]

namespace Stats

variable {s : Stats}

theorem groupValues_of_keyOf_eq {r r' : Record} (h : ∀ v ∈ s.groupValues r, IsPlainValue v)
    (h' : ∀ v ∈ s.groupValues r', IsPlainValue v) (heq : s.keyOf r = s.keyOf r') :
    s.groupValues r = s.groupValues r' :=
  join_injective (by simp [groupValues]) h h' heq

/-! ## Rows -/

/-- What the row of some records shows: some values of the group fields, and for
each aggregation what it means. -/
structure Shows (s : Stats) (values : List String) (records : List Record) (row : Row) : Prop where
  columns : row.keys = s.columns
  values : s.groupBy.map row.get? = values.map fun value => some (Cell.text value)
  measures : ∀ a ∈ s.aggregations, ∃ n, row.get? a.expression = some (.number n) ∧
    a.measure.Means records n

/-- What the row shows whatever the columns are called: what each aggregation means,
and the values of those group fields that no aggregation is named like. -/
structure Fills (s : Stats) (values : List String) (records : List Record) (row : Row) : Prop where
  keys : row.keys = firstOccurrences s.columns
  labels : ∀ field value, (field, value) ∈ s.groupBy.zip values →
    field ∉ s.aggregations.map Aggregation.expression → row.get? field = some (.text value)
  measures : ∀ a ∈ s.aggregations, ∃ n, row.get? a.expression = some (.number n) ∧
    a.measure.Means records n

/-- The aggregations have other names than the fields. -/
def Apart (s : Stats) : Prop := ∀ a ∈ s.aggregations, a.expression ∉ s.groupBy

theorem map_fst_cellsOf (records : List Record) :
    (s.cellsOf records).map Prod.fst = s.aggregations.map Aggregation.expression := by
  rw [cellsOf, List.map_map]
  rfl

theorem fills_rowOf (hdistinct : s.Distinct) {values : List String}
    (hlength : values.length = s.groupBy.length) (records : List Record) :
    s.Fills values records (s.rowOf values records) := by
  have hfields : s.groupBy.zipWith (fun field value => (field, Cell.text value)) values =
      s.groupBy.zip (values.map Cell.text) := by
    rw [List.zip, List.zipWith_map_right]
  have hkeys : (s.groupBy.zip (values.map Cell.text)).map Prod.fst = s.groupBy :=
    List.map_fst_zip (by rw [List.length_map, hlength])
  have hget : ∀ column, (s.rowOf values records).get? column =
      (OrderedMap.lastValue? column (s.cellsOf records)).or
        (OrderedMap.lastValue? column (s.groupBy.zip (values.map Cell.text))) := by
    intro column
    rw [rowOf, OrderedMap.get?_foldl_insert, OrderedMap.get?_ofList, hfields]
  refine ⟨?_, fun field value hlabel hfree => ?_, fun a ha => ?_⟩
  · rw [rowOf, OrderedMap.keys_foldl_insert, OrderedMap.keys_ofList, hfields, hkeys,
      map_fst_cellsOf, columns, firstOccurrences_append]
    simp only [mem_firstOccurrences]
  · have hmem : (field, Cell.text value) ∈ s.groupBy.zip (values.map Cell.text) := by
      rw [List.zip_map_right]
      exact List.mem_map.2 ⟨_, hlabel, rfl⟩
    rw [hget, OrderedMap.lastValue?_of_notMem (by rwa [map_fst_cellsOf]), Option.none_or,
      OrderedMap.lastValue?_of_mem (hkeys.symm ▸ hdistinct.groupBy) hmem]
  · have hmem : (a.expression,
        Cell.number ((Tally.ofRecords a.measure records).value a.measure)) ∈ s.cellsOf records :=
      List.mem_map.2 ⟨a, ha, rfl⟩
    refine ⟨_, ?_, Tally.means_ofRecords a.measure records⟩
    rw [hget, OrderedMap.lastValue?_of_mem (map_fst_cellsOf records ▸ hdistinct.expressions) hmem,
      Option.some_or]

theorem nodup_columns_iff (hdistinct : s.Distinct) : s.columns.Nodup ↔ s.Apart := by
  rw [columns, List.nodup_append]
  constructor
  · rintro ⟨-, -, hne⟩ a ha hfield
    exact hne _ hfield _ (List.mem_map.2 ⟨a, ha, rfl⟩) rfl
  · intro hapart
    refine ⟨hdistinct.groupBy, hdistinct.expressions, fun field hfield expression hexpression => ?_⟩
    obtain ⟨a, ha, rfl⟩ := List.mem_map.1 hexpression
    rintro rfl
    exact hapart a ha hfield

/-- With other names than the fields, the aggregations leave every label. -/
theorem Fills.shows (hdistinct : s.Distinct) (hapart : s.Apart) {values : List String}
    (hlength : values.length = s.groupBy.length) {records : List Record} {row : Row}
    (h : s.Fills values records row) : s.Shows values records row := by
  refine ⟨?_, ?_, h.measures⟩
  · rw [h.keys, firstOccurrences_of_nodup ((nodup_columns_iff hdistinct).2 hapart)]
  · refine List.ext_getElem (by rw [List.length_map, List.length_map, hlength]) fun i hi hi' => ?_
    rw [List.length_map] at hi hi'
    rw [List.getElem_map, List.getElem_map]
    refine h.labels _ _ (List.mem_iff_getElem.2 ⟨i, by simp [hi, hi'], by simp⟩) fun hmem => ?_
    obtain ⟨a, ha, heq⟩ := List.mem_map.1 hmem
    exact hapart a ha (heq ▸ List.getElem_mem hi)

theorem shows_rowOf (hdistinct : s.Distinct) (hapart : s.Apart) {values : List String}
    (hlength : values.length = s.groupBy.length) (records : List Record) :
    s.Shows values records (s.rowOf values records) :=
  (fills_rowOf hdistinct hlength records).shows hdistinct hapart hlength

theorem length_shownValues {group : List Record} (h : group ≠ []) :
    (s.shownValues group).length = s.groupBy.length := by
  obtain ⟨first, rest, rfl⟩ := List.exists_cons_of_ne_nil h
  simp [shownValues, groupValues]

/-- No group is empty. -/
theorem ne_nil_of_mem_groupsOf {records group : List Record} (h : group ∈ s.groupsOf records) :
    group ≠ [] := by
  obtain ⟨key, hkey, rfl⟩ := List.mem_map.1 h
  obtain ⟨r, hr, hrkey⟩ := List.mem_map.1 (mem_firstOccurrences.1 hkey)
  exact List.ne_nil_of_mem (List.mem_filter.2 ⟨hr, decide_eq_true hrkey⟩)

/-! ## Order of rows -/

/-- The rows are put into descending order of a column; rows that sort alike keep
their order. -/
structure Descends (column : String) (rows sorted : List Row) : Prop where
  perm : sorted.Perm rows
  descending : sorted.Pairwise fun a b => ∀ m n, a.get? column = some (.number m) →
    b.get? column = some (.number n) → m.lt n = false
  stable : ∀ place, sorted.filter (fun row => rank (row.get? column) = place) =
    rows.filter fun row => rank (row.get? column) = place

theorem sortRows_eq (column : String) (rows : List Row) :
    sortRows column rows = sortBy (fun row => -rank (row.get? column)) rows := by
  rw [sortRows, sortBy]
  simp only [neg_le_neg_iff]

end Stats

theorem Number.rank_lt_of_integer {m n : Int} (h : (integer m).lt (integer n) = true) :
    (integer m).rank < (integer n).rank := by
  have hlt : m < n := by simpa [lt, order?, Int.compare_eq_lt] using h
  exact Int.mul_lt_mul_of_pos_right hlt (Int.natCast_pos.2 (unitsOfTwo_pos 0))

theorem Number.rank_lt_of_binary {x y : Binary64} (h : (binary x).lt (binary y) = true) :
    (binary x).rank < (binary y).rank := by
  have hlt : x.lt y = true := h
  -- nothing is ordered with NaN
  have hx : x.isNaN = false := by
    cases x with
    | nan => cases hlt
    | infinite _ => rfl
    | finite _ _ _ _ => rfl
  have hy : y.isNaN = false := by
    cases y with
    | nan => cases x <;> cases hlt
    | infinite _ => rfl
    | finite _ _ _ _ => rfl
  exact (Binary64.lt_iff_rank_lt hx hy).1 hlt

/-- Within a column, numbers are ordered as they rank. -/
theorem Measure.Means.rank_lt {m : Measure} {records records' : List Record} {n n' : Number}
    (h : m.Means records n) (h' : m.Means records' n') (hlt : n.lt n' = true) : n.rank < n'.rank := by
  cases m with
  | count =>
      subst h h'
      exact Number.rank_lt_of_integer hlt
  | ofField function field =>
      cases function with
      | distinct =>
          subst h h'
          exact Number.rank_lt_of_integer hlt
      | sum =>
          subst h h'
          exact Number.rank_lt_of_binary hlt
      | average =>
          subst h h'
          exact Number.rank_lt_of_binary hlt
      | least =>
          obtain ⟨x, rfl, -⟩ := h
          obtain ⟨y, rfl, -⟩ := h'
          exact Number.rank_lt_of_binary hlt
      | greatest =>
          obtain ⟨x, rfl, -⟩ := h
          obtain ⟨y, rfl, -⟩ := h'
          exact Number.rank_lt_of_binary hlt

namespace Stats

variable {s : Stats}

/-- **Sorting** puts rows with an aggregation into descending order of it. -/
theorem descends_sortRows {a : Aggregation} (ha : a ∈ s.aggregations) {rows : List Row}
    (hshows : ∀ row ∈ rows, ∃ values records, s.Shows values records row) :
    Descends a.expression rows (sortRows a.expression rows) := by
  rw [sortRows_eq]
  refine ⟨perm_sortBy _ rows, ?_, fun place => ?_⟩
  · refine (pairwise_sortBy _ rows).imp_of_mem fun {b c} hb hc hle m n hm hn => ?_
    obtain ⟨_, _, hb⟩ := hshows b ((mem_sortBy _).1 hb)
    obtain ⟨_, _, hc⟩ := hshows c ((mem_sortBy _).1 hc)
    obtain ⟨m', hm', hmeans⟩ := hb.measures a ha
    obtain ⟨n', hn', hmeans'⟩ := hc.measures a ha
    rw [hm, Option.some.injEq, Cell.number.injEq] at hm'
    rw [hn, Option.some.injEq, Cell.number.injEq] at hn'
    subst hm' hn'
    rw [hm, hn] at hle
    have hle' : n.rank ≤ m.rank := neg_le_neg_iff.1 hle
    rw [Bool.eq_false_iff]
    exact fun hlt => absurd (hmeans.rank_lt hmeans' hlt) (not_lt.2 hle')
  · have hfilter := filter_sortBy (fun row => -rank (row.get? a.expression)) (-place) rows
    simpa only [withKey, neg_inj] using hfilter

/-! ## Counts -/

/-- The whole number in a column of a row. -/
def countIn (column : String) (row : Row) : Int :=
  match row.get? column with
  | some (.number (.integer n)) => n
  | _ => 0

theorem sum_length_groups (records : List Record) :
    ((s.groupsOf records).map List.length).sum = records.length := by
  simp only [groupsOf, List.map_map, Function.comp_def, ← List.countP_eq_length_filter]
  exact sum_countP_of_nodup s.keyOf (nodup_firstOccurrences _)
    fun r hr => mem_firstOccurrences.2 (List.mem_map_of_mem hr)

theorem Shows.countIn_eq {values : List String} {records : List Record} {row : Row}
    (h : s.Shows values records row) {a : Aggregation} (ha : a ∈ s.aggregations)
    (hcount : a.measure = .count) : countIn a.expression row = records.length := by
  obtain ⟨n, hn, hmeans⟩ := h.measures a ha
  rw [hcount] at hmeans
  rw [countIn, hn, show n = .integer records.length from hmeans]

/-! ## Tables -/

/-- The table of some records, said without tallies. -/
structure Tabulates (s : Stats) (records : List Record) (t : Table) : Prop where
  columns : t.columns = s.columns
  sourceHits : t.sourceHits = records.length
  /-- Without group fields there is one row for all records, also for none. -/
  whole : s.groupBy = [] → ∃ row, t.rows = [row] ∧ s.Shows [] records row
  /-- With group fields there is one row for each group, and these are in descending
  order of the first aggregation. -/
  grouped : s.groupBy ≠ [] → ∃ first rows, s.aggregations.head? = some first ∧
    List.Forall₂ (fun group row => s.Shows (s.shownValues group) group row)
      (s.groupsOf records) rows ∧
    Descends first.expression rows t.rows
  /-- The counts of all rows add up to the number of records. -/
  counts : ∀ a ∈ s.aggregations, a.measure = .count →
    (t.rows.map (countIn a.expression)).sum = t.sourceHits

theorem aggregate_of_nil (h : s.groupBy = []) (records : List Record) :
    s.aggregate records = ⟨s.columns, [s.rowOf [] records], records.length⟩ := by
  rw [aggregate, h, cells_foldl_addRecord, rowOf, h]
  rfl

theorem aggregate_of_ne_nil (h : s.groupBy ≠ []) {first : Aggregation} {rest : List Aggregation}
    (haggregations : s.aggregations = first :: rest) (records : List Record) :
    s.aggregate records =
      ⟨s.columns, sortRows first.expression (s.groupRows records), records.length⟩ := by
  have hsome : ¬ s.groupBy.isEmpty = true := by rwa [List.isEmpty_iff]
  rw [aggregate, if_neg hsome, rows_of_groups, haggregations]

theorem tabulates_of_nil (hdistinct : s.Distinct) (hapart : s.Apart) (h : s.groupBy = [])
    (records : List Record) : s.Tabulates records (s.aggregate records) := by
  have hrow : s.Shows [] records (s.rowOf [] records) :=
    shows_rowOf hdistinct hapart (by rw [h]) records
  rw [aggregate_of_nil h]
  refine ⟨rfl, rfl, fun _ => ⟨_, rfl, hrow⟩, fun hne => absurd h hne, fun a ha hcount => ?_⟩
  rw [List.map_singleton, List.sum_singleton, hrow.countIn_eq ha hcount]

theorem tabulates_of_ne_nil (hdistinct : s.Distinct) (hapart : s.Apart) (h : s.groupBy ≠ [])
    (records : List Record) : s.Tabulates records (s.aggregate records) := by
  obtain ⟨first, rest, haggregations⟩ := List.exists_cons_of_ne_nil hdistinct.aggregations_ne_nil
  have hfirst : first ∈ s.aggregations := by simp [haggregations]
  have hshows : ∀ group ∈ s.groupsOf records,
      s.Shows (s.shownValues group) group (s.rowOf (s.shownValues group) group) :=
    fun group hgroup => shows_rowOf hdistinct hapart
      (length_shownValues (ne_nil_of_mem_groupsOf hgroup)) group
  have hrows : List.Forall₂ (fun group row => s.Shows (s.shownValues group) group row)
      (s.groupsOf records) (s.groupRows records) := by
    rw [groupRows, List.forall₂_map_right_iff, List.forall₂_same]
    exact hshows
  have hsorted : Descends first.expression (s.groupRows records)
      (sortRows first.expression (s.groupRows records)) := by
    refine descends_sortRows hfirst fun row hrow => ?_
    obtain ⟨group, hgroup, rfl⟩ := List.mem_map.1 hrow
    exact ⟨_, _, hshows group hgroup⟩
  rw [aggregate_of_ne_nil h haggregations]
  refine ⟨rfl, rfl, fun hnil => absurd hnil h,
    fun _ => ⟨first, _, by rw [haggregations]; rfl, hrows, hsorted⟩, fun a ha hcount => ?_⟩
  have hcounts : (s.groupRows records).map (countIn a.expression) =
      ((s.groupsOf records).map List.length).map fun n : Nat => (n : Int) := by
    rw [groupRows, List.map_map, List.map_map]
    exact List.map_congr_left fun group hgroup => (hshows group hgroup).countIn_eq ha hcount
  calc ((sortRows first.expression (s.groupRows records)).map (countIn a.expression)).sum
      = ((s.groupRows records).map (countIn a.expression)).sum := (hsorted.perm.map _).sum_eq
    _ = records.length := by rw [hcounts, ← Nat.cast_list_sum, sum_length_groups]

theorem tabulates_aggregate (hdistinct : s.Distinct) (hapart : s.Apart) (records : List Record) :
    s.Tabulates records (s.aggregate records) := by
  by_cases h : s.groupBy = []
  · exact tabulates_of_nil hdistinct hapart h records
  · exact tabulates_of_ne_nil hdistinct hapart h records

end Stats

/-- What is built as statistics. -/
theorem Stats.build_of_built [Platform] {timezone : String} {spec : StageSpec} {s : Stats}
    (h : Stage.built timezone spec = .ok (.stats s)) : build spec = .ok s := by
  unfold Stage.built Stage.build at h
  split at h
  · rw [Logged.outcome_map_ofExcept] at h
    obtain ⟨_, _, heq⟩ := Except.exists_of_map_eq_ok h
    cases heq
  · rw [Logged.outcome_map_ofExcept] at h
    obtain ⟨_, _, heq⟩ := Except.exists_of_map_eq_ok h
    cases heq
  · rw [Logged.outcome_map_ofExcept] at h
    obtain ⟨_, hs, heq⟩ := Except.exists_of_map_eq_ok h
    cases heq
    exact hs
  · rw [Logged.outcome_map_ofExcept] at h
    obtain ⟨_, _, heq⟩ := Except.exists_of_map_eq_ok h
    cases heq
  · rw [Logged.outcome_bind fun _ => Logged.appends_pure _] at h
    obtain ⟨_, _, heq⟩ := Except.exists_of_map_eq_ok (g := Stage.timechart) h
    cases heq
  · rw [Logged.outcome_map_ofExcept] at h
    obtain ⟨_, _, heq⟩ := Except.exists_of_map_eq_ok h
    cases heq
  · cases h

/-- **Statistics are what they mean.**  Of a stage that is built, whose
aggregations have other names than its group fields, the table of any records is
the one that is said without tallies (`Stats.Tabulates`): one row for each group, or
one for all records; each shows the values of the group as they were seen first and
what each aggregation means for its records; the rows are in descending order of the
first aggregation, those that sort alike as they were first seen; and the counts add
up to the number of records.  Records whose values are free of the separator are in
one group only if they have the same values. -/
theorem aggregates_naively [Platform] {timezone : String} {spec : StageSpec} {s : Stats}
    (hbuilt : Stage.built timezone spec = .ok (.stats s)) (hapart : s.Apart)
    (records : List Record) :
    ∃ t, (Stage.stats s).execute (.logs records) = pure (.table t) ∧ s.Tabulates records t ∧
      ∀ r r', (∀ v ∈ s.groupValues r, IsPlainValue v) → (∀ v ∈ s.groupValues r', IsPlainValue v) →
        s.keyOf r = s.keyOf r' → s.groupValues r = s.groupValues r' :=
  ⟨_, rfl, Stats.tabulates_aggregate (Stats.distinct_of_build (Stats.build_of_built hbuilt)) hapart
    records, fun _ _ => Stats.groupValues_of_keyOf_eq⟩

/-- A count and a sum for each level. -/
def byLevel : Stats :=
  ⟨[⟨"count", .count⟩, ⟨"sum(bytes)", .ofField .sum "bytes"⟩], ["level"]⟩

/-- They are built on every platform. -/
theorem built_byLevel [Platform] :
    Stage.built "UTC" ⟨"stats", ["count", "sum(bytes)", "by", "level"], .empty⟩ =
      .ok (.stats byLevel) := by
  have hbuild : Stats.build ⟨"stats", ["count", "sum(bytes)", "by", "level"], .empty⟩ =
      .ok byLevel := by decide +kernel
  rw [Stage.built_stats _ _ _ (by decide), hbuild]
  rfl

/-- A record with a level and a text in which there may be a number. -/
def ofLevel (level bytes : String) : Record :=
  { (default : Record) with fields := .ofList [("level", level), ("bytes", bytes)] }

/-- Three records of two levels, one without a number. -/
def threeOfLevels : List Record :=
  [ofLevel "info" "5kB", ofLevel "warn" "n/a", ofLevel "warn" "7"]

/-- The row of a level. -/
def levelRow (level : String) (count sum : Int) : Row :=
  .ofList [("level", .text level), ("count", .number (.integer count)),
    ("sum(bytes)", .number (.binary (.ofInt sum)))]

theorem rows_threeOfLevels :
    (byLevel.aggregate threeOfLevels).rows = [levelRow "warn" 2 7, levelRow "info" 1 5] := by
  have hgroups : (threeOfLevels.foldl byLevel.addToGroups .empty).values.map byLevel.groupRow =
      [levelRow "info" 1 5, levelRow "warn" 2 7] := by decide +kernel
  have hless : ¬ Stats.rank ((levelRow "warn" 2 7).get? "count") ≤
      Stats.rank ((levelRow "info" 1 5).get? "count") := by decide +kernel
  show Stats.sortRows "count" _ = _
  rw [hgroups]
  simp [Stats.sortRows, List.mergeSort, List.MergeSort.Internal.splitInTwo, hless]

/-- The two records of one level come first; their sum is that of the one number
there is. -/
theorem aggregates_naively_byLevel :
    Stage.built "UTC" ⟨"stats", ["count", "sum(bytes)", "by", "level"], .empty⟩ =
        .ok (.stats byLevel) ∧
      byLevel.Apart ∧
      ∃ t, (Stage.stats byLevel).execute (.logs threeOfLevels) = pure (.table t) ∧
        byLevel.Tabulates threeOfLevels t ∧
        byLevel.groupsOf threeOfLevels =
          [[ofLevel "info" "5kB"], [ofLevel "warn" "n/a", ofLevel "warn" "7"]] ∧
        t.rows = [levelRow "warn" 2 7, levelRow "info" 1 5] := by
  have hapart : byLevel.Apart := by
    unfold Stats.Apart
    decide
  obtain ⟨t, hexecute, htabulates, -⟩ := aggregates_naively built_byLevel hapart threeOfLevels
  obtain rfl : byLevel.aggregate threeOfLevels = t := by
    have houtcome := congrArg (fun x => (Call.on x []).1) hexecute
    exact Result.table.inj (Except.ok.inj houtcome)
  exact ⟨built_byLevel, hapart, _, hexecute, htabulates, by decide +kernel, rows_threeOfLevels⟩

end PipeQuery
