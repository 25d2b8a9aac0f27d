import PipeQuery.Proofs.Aggregates

/-!
# Columns of statistics

The columns of statistics are the group fields and behind them the aggregations.
Each of the two lists is free of repeats, but a field may be called like an
aggregation, as in `count by count`.  Both are written to one cell then, and the
aggregation is written last: the label of the group is lost, and the table has two
columns of one name.

* `Stats.fills_aggregate`: what every table shows, whatever the fields are called.
* `Stats.wellFormed_iff`: a table is well formed if and only if no field is called
  like an aggregation.
* `Stats.labels_kept_iff`: both together, for a stage that is built.
-/

namespace PipeQuery

namespace Stats

variable {s : Stats}

/-- The records of each row: all records without group fields, and otherwise those of
a group. -/
def recordsOfRows (s : Stats) (records : List Record) : List (List Record) :=
  if s.groupBy = [] then [records] else s.groupsOf records

/-- The rows of the table are, up to their order, one for each group and as `shows`
says of the values that the group shows and its records. -/
def RowsShow (s : Stats) (shows : List String → List Record → Row → Prop) (records : List Record)
    (t : Table) : Prop :=
  ∃ rows, List.Forall₂ (fun group row => shows (s.shownValues group) group row)
    (s.recordsOfRows records) rows ∧ t.rows.Perm rows

/-- The columns are different, every row has exactly these columns, and each row shows
the values of its group as they were first seen and what each aggregation means. -/
structure WellFormed (s : Stats) (records : List Record) (t : Table) : Prop where
  nodup : t.columns.Nodup
  keys : ∀ row ∈ t.rows, row.keys = t.columns
  rows : s.RowsShow s.Shows records t

theorem length_shownValues_of_mem {records group : List Record}
    (h : group ∈ s.recordsOfRows records) : (s.shownValues group).length = s.groupBy.length := by
  unfold recordsOfRows at h
  split at h
  · next hnil =>
    rw [shownValues, hnil]
    cases group.head? with
    | none => rfl
    | some first => simp [groupValues, hnil]
  · exact length_shownValues (ne_nil_of_mem_groupsOf h)

/-- The rows before they are put in order. -/
def unsortedRows (s : Stats) (records : List Record) : List Row :=
  (s.recordsOfRows records).map fun group => s.rowOf (s.shownValues group) group

theorem rows_aggregate (hdistinct : s.Distinct) (records : List Record) :
    (s.aggregate records).rows.Perm (s.unsortedRows records) := by
  unfold unsortedRows recordsOfRows
  by_cases hnil : s.groupBy = []
  · have hvalues : s.rowOf (s.shownValues records) records = s.rowOf [] records := by
      simp [rowOf, hnil]
    rw [if_pos hnil, aggregate_of_nil hnil, List.map_singleton, hvalues]
  · obtain ⟨first, rest, haggregations⟩ := List.exists_cons_of_ne_nil hdistinct.aggregations_ne_nil
    rw [if_neg hnil, aggregate_of_ne_nil hnil haggregations]
    exact List.mergeSort_perm _ _

theorem columns_aggregate (s : Stats) (records : List Record) :
    (s.aggregate records).columns = s.columns := by
  unfold aggregate
  split <;> rfl

/-- **What every table shows**: each row has every column as a key, what the aggregations
mean, and the labels of the fields that no aggregation is named like. -/
theorem fills_aggregate (hdistinct : s.Distinct) (records : List Record) :
    s.RowsShow s.Fills records (s.aggregate records) := by
  refine ⟨s.unsortedRows records, ?_, rows_aggregate hdistinct records⟩
  rw [unsortedRows, List.forall₂_map_right_iff, List.forall₂_same]
  exact fun group hgroup => fills_rowOf hdistinct (length_shownValues_of_mem hgroup) group

/-- **A table is well formed** if and only if no field is called like an aggregation. -/
theorem wellFormed_iff (hdistinct : s.Distinct) (records : List Record) :
    s.WellFormed records (s.aggregate records) ↔ s.Apart := by
  constructor
  · intro hwell
    rw [← nodup_columns_iff hdistinct, ← s.columns_aggregate records]
    exact hwell.nodup
  · intro hapart
    have hshows : ∀ group ∈ s.recordsOfRows records,
        s.Shows (s.shownValues group) group (s.rowOf (s.shownValues group) group) :=
      fun group hgroup => shows_rowOf hdistinct hapart (length_shownValues_of_mem hgroup) group
    refine ⟨?_, fun row hrow => ?_, s.unsortedRows records, ?_, rows_aggregate hdistinct records⟩
    · rw [columns_aggregate]
      exact (nodup_columns_iff hdistinct).2 hapart
    · rw [columns_aggregate]
      obtain ⟨group, hgroup, rfl⟩ :=
        List.mem_map.1 ((rows_aggregate hdistinct records).mem_iff.1 hrow)
      exact (hshows group hgroup).columns
    · rw [unsortedRows, List.forall₂_map_right_iff, List.forall₂_same]
      exact hshows

/-- **Labels are kept apart from aggregations** if and only if they are called
differently.  Of a stage that is built, and any records, the table is well formed if
and only if no group field is called like an aggregation.  Whatever the fields are
called, the columns are the fields and then the aggregations; each row has exactly
these as its keys and shows what each aggregation means for its group; and it shows
the value that was seen first of each field, but for those that an aggregation is
named like. -/
theorem labels_kept_iff [Platform] {timezone : String} {spec : StageSpec} {s : Stats}
    (hbuilt : Stage.built timezone spec = .ok (.stats s)) (records : List Record) :
    ∃ t, (Stage.stats s).execute (.logs records) = pure (.table t) ∧
      t.columns = s.groupBy ++ s.aggregations.map Aggregation.expression ∧
      (s.WellFormed records t ↔ s.Apart) ∧ s.RowsShow s.Fills records t := by
  have hdistinct := distinct_of_build (build_of_built hbuilt)
  exact ⟨_, rfl, s.columns_aggregate records, wellFormed_iff hdistinct records,
    fills_aggregate hdistinct records⟩

/-- How many records there are of each count. -/
def byCount : Stats := ⟨[⟨"count", .count⟩], ["count"]⟩

/-- A field that is called like an aggregation is not kept apart from it, and other
names are. -/
theorem labels_kept_byLevel :
    (Stage.built "UTC" ⟨"stats", ["count", "sum(bytes)", "by", "level"], .empty⟩ =
        .ok (.stats byLevel) ∧
      ∃ t, (Stage.stats byLevel).execute (.logs [ofLevel "info" "5kB"]) = pure (.table t) ∧
        byLevel.WellFormed [ofLevel "info" "5kB"] t) ∧
    Stage.built "UTC" ⟨"stats", ["count", "by", "count"], .empty⟩ = .ok (.stats byCount) ∧
      ∃ t, (Stage.stats byCount).execute (.logs [ofLevel "info" "5kB"]) = pure (.table t) ∧
        ¬ byCount.WellFormed [ofLevel "info" "5kB"] t := by
  have hbuild : build ⟨"stats", ["count", "by", "count"], .empty⟩ = .ok byCount := by
    decide +kernel
  have hcount : Stage.built "UTC" ⟨"stats", ["count", "by", "count"], .empty⟩ =
      .ok (.stats byCount) := by
    rw [Stage.built_stats _ _ _ (by decide), hbuild]
    rfl
  obtain ⟨t, hexecute, -, hwell, -⟩ := labels_kept_iff built_byLevel [ofLevel "info" "5kB"]
  obtain ⟨t', hexecute', -, hwell', -⟩ := labels_kept_iff hcount [ofLevel "info" "5kB"]
  refine ⟨⟨built_byLevel, t, hexecute, hwell.2 ?_⟩, hcount, t', hexecute', fun h => ?_⟩
  · unfold Apart
    decide
  · exact hwell'.1 h ⟨"count", .count⟩ (by decide) (by decide)

end Stats

end PipeQuery
