import PipeQuery.Proofs.RowStages
import PipeQuery.Proofs.StatsColumns

/-!
# Filters that move

A filter looks at one field and at nothing else.  So it may run in front of a stage or
behind it, as long as the stage leaves that field alone.

* `Transform.get?_apply`: a transform leaves every field that it does not write.
* `RowStage.filter_to_front`: so a filter on a field that a chain does not write may as
  well run before the whole chain.
* `Transform.filter_on_either_side`: the same of one transform, on records and on tables
  whose cells can be written where they are read (`RowStage.CanWrite`).
* `Stats.groupRows_filter`: a filter on the group field keeps whole groups or none of
  their records.
* `Stats.filter_on_either_side_of_groups`: so it may run on the records before they are
  grouped, or on the rows of the groups.
-/

namespace PipeQuery

/-! ## What a transform leaves -/

/-- The fields that a transform sets or takes away. -/
def Transform.written : Transform → List String
  | rename field target => [field, target]
  | extract _ _ target | merge _ target _ | eval target _ => [target]
  | replace field _ _ | remove field => [field]

namespace Transform

variable {t : Transform} {field : String}

/-- **A transform leaves the other fields**: none of them changes, appears or goes. -/
theorem get?_apply (typed : Bool) (h : field ∉ t.written) (row : Row) :
    (t.apply typed row).get? field = row.get? field := by
  cases t with
  | rename old target =>
      obtain ⟨hold, htarget⟩ : field ≠ old ∧ field ≠ target := by simpa [written] using h
      simp only [apply]
      split
      · rw [OrderedMap.get?_insert, if_neg htarget, OrderedMap.get?_erase, if_neg hold]
      · rfl
  | extract source pattern target =>
      have htarget : field ≠ target := by simpa [written] using h
      simp only [apply]
      split
      · rw [OrderedMap.get?_insert, if_neg htarget]
      · rfl
  | replace source pattern replacement =>
      have hsource : field ≠ source := by simpa [written] using h
      simp only [apply]
      split
      · rw [OrderedMap.get?_insert, if_neg hsource]
      · rfl
  | merge sources target separator =>
      have htarget : field ≠ target := by simpa [written] using h
      rw [apply, OrderedMap.get?_insert, if_neg htarget]
  | eval target expression =>
      have htarget : field ≠ target := by simpa [written] using h
      rw [apply, OrderedMap.get?_insert, if_neg htarget]
  | remove source =>
      have hsource : field ≠ source := by simpa [written] using h
      rw [apply, OrderedMap.get?_erase, if_neg hsource]

theorem get?_applyFields (h : field ∉ t.written) (fields : Fields) :
    (t.applyFields fields).get? field = fields.get? field := by
  rw [applyFields, OrderedMap.get?_mapValues, get?_apply false h, ← OrderedMap.get?_mapValues,
    OrderedMap.mapValues_mapValues]
  exact congrArg (fun fields : Fields => fields.get? field) (OrderedMap.mapValues_self fields)

end Transform

/-! ## Chains of row stages -/

namespace RowStage

/-- The fields that a stage sets or takes away. -/
def written : RowStage → List String
  | filter _ => []
  | transform t => t.written

variable {s : RowStage} {f : Filter}

/-- A stage leaves the fields that it does not write, if it leaves the record. -/
theorem get?_of_onFields? {field : String} (h : field ∉ s.written) {fields fields' : Fields}
    (hkept : s.onFields? fields = some fields') : fields'.get? field = fields.get? field := by
  cases s with
  | filter g =>
      simp only [onFields?] at hkept
      split at hkept
      · cases hkept
        rfl
      · cases hkept
  | transform t =>
      cases hkept
      exact Transform.get?_applyFields h fields

/-- A stage leaves the cells that it does not write, if it leaves the row. -/
theorem get?_of_onRow? {field : String} (h : field ∉ s.written) {row row' : Row}
    (hkept : s.onRow? row = some row') : row'.get? field = row.get? field := by
  cases s with
  | filter g =>
      simp only [onRow?] at hkept
      split at hkept
      · cases hkept
        rfl
      · cases hkept
  | transform t =>
      cases hkept
      exact Transform.get?_apply true h row

/-- A test that sees no difference may be made first. -/
theorem bind_test_comm {α : Type} {change : α → Option α} {p : α → Bool} {a : α}
    (h : ∀ b, change a = some b → p b = p a) :
    ((change a).bind fun b => if p b then some b else none) =
      (if p a then some a else none).bind change := by
  cases hchange : change a with
  | none =>
      split
      · exact hchange.symm
      · rfl
  | some b =>
      rw [Option.bind_some, h b hchange]
      split
      · exact hchange.symm
      · rfl

theorem onFields?_filter (h : f.field ∉ s.written) (fields : Fields) :
    (s.onFields? fields).bind (filter f).onFields? =
      ((filter f).onFields? fields).bind s.onFields? :=
  bind_test_comm (p := fun fields : Fields => f.holds (fields.get? f.field))
    fun _ hkept => congrArg f.holds (get?_of_onFields? h hkept)

theorem onRow?_filter (h : f.field ∉ s.written) (row : Row) :
    (s.onRow? row).bind (filter f).onRow? = ((filter f).onRow? row).bind s.onRow? :=
  bind_test_comm (p := f.keepsRow) fun _ hkept => by
    rw [Filter.keepsRow, Filter.keepsRow, get?_of_onRow? h hkept]

/-- Two stages on a record are two stages on its fields. -/
theorem onRecord?_bind (s u : RowStage) (r : Record) :
    (s.onRecord? r).bind u.onRecord? =
      ((s.onFields? r.fields).bind u.onFields?).map r.withFields := by
  unfold onRecord?
  cases s.onFields? r.fields with
  | none => rfl
  | some fields => rfl

theorem onRecord?_filter (h : f.field ∉ s.written) (r : Record) :
    (s.onRecord? r).bind (filter f).onRecord? = ((filter f).onRecord? r).bind s.onRecord? := by
  rw [onRecord?_bind, onRecord?_bind, onFields?_filter h]

theorem filterMap_comm {α : Type} {f g : α → Option α} (h : ∀ a, (f a).bind g = (g a).bind f)
    (items : List α) : (items.filterMap f).filterMap g = (items.filterMap g).filterMap f := by
  rw [List.filterMap_filterMap, List.filterMap_filterMap]
  exact List.filterMap_congr fun a _ => h a

/-- The columns and the number of records of a table are the same in either order. -/
theorem onTable_filter (h : f.field ∉ s.written) (t : Table) :
    (filter f).onTable (s.onTable t) = s.onTable ((filter f).onTable t) :=
  congrArg (Table.mk (s.onColumns t.columns) · t.sourceHits)
    (filterMap_comm (onRow?_filter h) t.rows)

section Chains

variable {chain : List RowStage} (h : ∀ s ∈ chain, f.field ∉ s.written)

include h

theorem recordsAfter_filter (records : List Record) :
    recordsAfter (chain ++ [filter f]) records = recordsAfter (filter f :: chain) records := by
  induction chain generalizing records with
  | nil => rfl
  | cons s rest ih =>
      have hs := h s (List.mem_cons_self ..)
      have hrest := ih (fun u hu => h u (List.mem_cons_of_mem _ hu)) (records.filterMap s.onRecord?)
      calc recordsAfter (s :: rest ++ [filter f]) records
          = recordsAfter (filter f :: rest) (records.filterMap s.onRecord?) := hrest
        _ = recordsAfter rest
              ((records.filterMap s.onRecord?).filterMap (filter f).onRecord?) := rfl
        _ = recordsAfter (filter f :: s :: rest) records := by
              rw [filterMap_comm (onRecord?_filter hs)]
              rfl

theorem tableAfter_filter (t : Table) :
    tableAfter (chain ++ [filter f]) t = tableAfter (filter f :: chain) t := by
  induction chain generalizing t with
  | nil => rfl
  | cons s rest ih =>
      have hs := h s (List.mem_cons_self ..)
      have hrest := ih (fun u hu => h u (List.mem_cons_of_mem _ hu)) (s.onTable t)
      calc tableAfter (s :: rest ++ [filter f]) t
          = tableAfter (filter f :: rest) (s.onTable t) := hrest
        _ = tableAfter rest ((filter f).onTable (s.onTable t)) := rfl
        _ = tableAfter (filter f :: s :: rest) t := by
              rw [onTable_filter hs]
              rfl

/-- **A filter to the front**: on a field that no stage of a chain writes, it may run
before the chain instead of behind it, whatever comes after. -/
theorem filter_to_front {result : Result} (hkind : result.kind = .logs ∨ result.kind = .table)
    (rest : List Stage) (log : List LogLine) :
    Call.on (Stage.runAll (chain.map toStage ++ .filter f :: rest) result) log =
      Call.on (Stage.runAll (.filter f :: (chain.map toStage ++ rest)) result) log := by
  have hbehind : chain.map toStage ++ .filter f :: rest =
      (chain ++ [filter f]).map toStage ++ rest := by
    simp [toStage]
  have hbefore : .filter f :: (chain.map toStage ++ rest) =
      (filter f :: chain).map toStage ++ rest := rfl
  rw [hbehind, hbefore]
  cases result with
  | logs records => rw [on_runAll_logs, on_runAll_logs, recordsAfter_filter h]
  | table t => rw [on_runAll_table, on_runAll_table, tableAfter_filter h]
  | chart c => cases hkind <;> contradiction
  | timechart c => cases hkind <;> contradiction
  | exported e => cases hkind <;> contradiction

end Chains

end RowStage

/-! ## Cells that cannot be written -/

/-- The cells of a row that a transform takes the texts of. -/
def Transform.cellsRead : Transform → Row → List Cell
  | rename .., _ | remove _, _ => []
  | extract field _ _, row | replace field _ _, row => (row.get? field).toList
  | merge sources _ _, row => sources.filterMap row.get?
  | eval .., row => row.values

namespace RowStage

/-- The cells of a row that a stage takes the texts of. -/
def cellsRead : RowStage → Row → List Cell
  | filter f, row => (row.get? f.field).toList
  | transform t, row => t.cellsRead row

/-- Each stage of a chain can write the cells that it takes the texts of, in the table
that it is given.  Where one cannot, it fails. -/
def CanWrite : List RowStage → Table → Prop
  | [], _ => True
  | s :: rest, t =>
    (∀ row ∈ t.rows, ∀ cell ∈ s.cellsRead row, cell.isWritable = true) ∧
      CanWrite rest (s.onTable t)

/-- A filter in front of a transform leaves it fewer cells to write, and has the same
ones to write itself. -/
theorem CanWrite.filter_first {t : Transform} {f : Filter} {table : Table}
    (h : CanWrite [transform t, filter f] table) (hother : f.field ∉ t.written) :
    CanWrite [filter f, transform t] table := by
  obtain ⟨htransform, hfilter, -⟩ := h
  refine ⟨fun row hrow cell hcell => ?_, fun row hrow => htransform row ?_, trivial⟩
  · refine hfilter (t.apply true row) (List.mem_filterMap.2 ⟨row, hrow, rfl⟩) cell ?_
    rwa [cellsRead, Transform.get?_apply true hother]
  · obtain ⟨kept, hkept, hrow⟩ := List.mem_filterMap.1 hrow
    rw [onRow?, Option.ite_none_right_eq_some] at hrow
    exact Option.some.inj hrow.2 ▸ hkept

end RowStage

/-- A table of two users. -/
def twoUsers : Table where
  columns := ["count", "user"]
  rows := [.ofList [("count", .number (.integer 2)), ("user", .text "ann")],
    .ofList [("count", .number (.integer 1)), ("user", .text "bob")]]
  sourceHits := 3

/-- All users whose names start alike. -/
def namedAn : Filter := ⟨"user", "an", .comparison .startsWith⟩

/-- How often a user comes, in one text. -/
def countsOfUsers : Transform := .merge ["user", "count"] "times" ": "

/-- What is left of the two users. -/
def annOnly : Table where
  columns := ["count", "user", "times"]
  rows := [.ofList [("count", .number (.integer 2)), ("user", .text "ann"),
    ("times", .text "ann: 2")]]
  sourceHits := 3

namespace Stats

variable {s : Stats} {f : Filter}

theorem sortRows_filter (column : String) (p : Row → Bool) (rows : List Row) :
    sortRows column (rows.filter p) = (sortRows column rows).filter p := by
  rw [sortRows_eq, sortRows_eq, sortBy_filter]

/-- The row of a group shows the value of the group field, unless an aggregation has its
name. -/
theorem get?_rowOf {field : String} (hgroup : s.groupBy = [field])
    (hapart : field ∉ s.aggregations.map Aggregation.expression) (value : String)
    (records : List Record) : (s.rowOf [value] records).get? field = some (.text value) := by
  rw [rowOf, OrderedMap.get?_foldl_insert, hgroup,
    OrderedMap.lastValue?_of_notMem (by rwa [map_fst_cellsOf]), Option.none_or,
    OrderedMap.get?_ofList]
  simp [OrderedMap.lastValue?]

theorem groupRows_of_field {field : String} (hgroup : s.groupBy = [field]) (records : List Record) :
    s.groupRows records = (firstOccurrences (records.map (groupOf field))).map fun value =>
      s.rowOf [value] (records.filter fun r => groupOf field r = value) := by
  rw [← rows_of_groups, rows_of_field hgroup]

/-- A filter keeps a record with the field by the group that the record is in. -/
theorem keepsRecord_eq {r : Record} (h : f.field ∈ r.fields.keys) :
    f.keepsRecord r = f.accepts (groupOf f.field r) := by
  obtain ⟨value, hvalue⟩ := Option.isSome_iff_exists.1 (OrderedMap.isSome_get?_iff.2 h)
  have hget : r.get? f.field = some value := hvalue
  rw [Filter.keepsRecord, groupOf, hget]
  rfl

/-- A filter on the group field keeps the row of a group by the value that it shows. -/
theorem keepsRow_rowOf (hgroup : s.groupBy = [f.field])
    (hapart : f.field ∉ s.aggregations.map Aggregation.expression) (value : String)
    (records : List Record) : f.keepsRow (s.rowOf [value] records) = f.accepts value := by
  rw [Filter.keepsRow, get?_rowOf hgroup hapart]
  rfl

/-- **Whole groups are kept or dropped** by a filter on the group field: the groups of
the records that it keeps are those whose rows it keeps, with all of their records. -/
theorem groupRows_filter (hgroup : s.groupBy = [f.field])
    (hapart : f.field ∉ s.aggregations.map Aggregation.expression) {records : List Record}
    (hfield : ∀ r ∈ records, f.field ∈ r.fields.keys) :
    s.groupRows (records.filter f.keepsRecord) = (s.groupRows records).filter f.keepsRow := by
  have hkept : records.filter f.keepsRecord =
      records.filter fun r => f.accepts (groupOf f.field r) :=
    List.filter_congr fun r hr => keepsRecord_eq (hfield r hr)
  have hvalues : firstOccurrences ((records.filter f.keepsRecord).map (groupOf f.field)) =
      (firstOccurrences (records.map (groupOf f.field))).filter f.accepts := by
    rw [hkept, ← firstOccurrences_filter, List.filter_map]
    rfl
  -- a value that is kept is kept with all records of its group
  have hgroups : ∀ value, f.accepts value = true →
      (records.filter f.keepsRecord).filter (fun r => groupOf f.field r = value) =
        records.filter fun r => groupOf f.field r = value := by
    intro value hvalue
    rw [hkept, List.filter_filter]
    refine List.filter_congr fun r _ => ?_
    by_cases hr : groupOf f.field r = value
    · simp [hr, hvalue]
    · simp [hr]
  have hrows : ∀ values : List String,
      (values.map fun value => s.rowOf [value]
          (records.filter fun r => groupOf f.field r = value)).filter f.keepsRow =
        (values.filter f.accepts).map fun value => s.rowOf [value]
          (records.filter fun r => groupOf f.field r = value) := by
    intro values
    rw [List.filter_map]
    exact congrArg _ (List.filter_congr fun value _ => keepsRow_rowOf hgroup hapart value _)
  rw [groupRows_of_field hgroup, groupRows_of_field hgroup, hvalues, hrows]
  refine List.map_congr_left fun value hvalue => ?_
  rw [hgroups value (List.mem_filter.1 hvalue).2]

/-- The rows of a table are sorted, or not, in the same way if some are left out. -/
theorem rows_aggregate_filter (hgroup : s.groupBy = [f.field])
    (hapart : f.field ∉ s.aggregations.map Aggregation.expression) {records : List Record}
    (hfield : ∀ r ∈ records, f.field ∈ r.fields.keys) :
    (s.aggregate (records.filter f.keepsRecord)).rows =
      (s.aggregate records).rows.filter f.keepsRow := by
  have hsome : ¬ s.groupBy.isEmpty = true := by simp [hgroup]
  rw [aggregate, aggregate, if_neg hsome, if_neg hsome]
  simp only [rows_of_groups, groupRows_filter hgroup hapart hfield]
  split
  · rfl
  · exact sortRows_filter _ _ _

theorem sourceHits_aggregate (records : List Record) :
    (s.aggregate records).sourceHits = records.length := by
  unfold aggregate
  split <;> rfl

/-- **A filter on either side of the groups.**  If all records have the group field and
no aggregation has its name, a filter on it may run on the records or on the table: both
orders come to an end, write no log, and leave tables with the same columns and the same
rows in the same order.  The tables differ in the number of records that they are made
of. -/
theorem filter_on_either_side_of_groups (hgroup : s.groupBy = [f.field])
    (hapart : f.field ∉ s.aggregations.map Aggregation.expression) {records : List Record}
    (hfield : ∀ r ∈ records, f.field ∈ r.fields.keys) (log : List LogLine) :
    ∃ kept whole : Table,
      Call.on (Stage.runAll [.filter f, .stats s] (.logs records)) log = (.ok (.table kept), log) ∧
      Call.on (Stage.runAll [.stats s, .filter f] (.logs records)) log =
        (.ok (.table whole), log) ∧
      kept.columns = whole.columns ∧ kept.rows = whole.rows ∧
      kept.sourceHits = records.countP f.keepsRecord ∧ whole.sourceHits = records.length := by
  refine ⟨s.aggregate (records.filter f.keepsRecord),
    { s.aggregate records with rows := (s.aggregate records).rows.filter f.keepsRow },
    rfl, rfl, ?_, rows_aggregate_filter hgroup hapart hfield, ?_, sourceHits_aggregate records⟩
  · rw [columns_aggregate, columns_aggregate]
  · rw [sourceHits_aggregate, List.countP_eq_length_filter]

/-- Every level but one. -/
def notInfo : Filter := ⟨"level", "info", .comparison .notEqual⟩

/-- Records of three levels, the last of which comes most often. -/
def threeLevels : List Record :=
  [ofLevel "info" "5kB", ofLevel "warn" "n/a", ofLevel "error" "1", ofLevel "error" "2"]

/-- The filter drops the group that was seen first, and sorting turns the other two
around. -/
theorem filter_on_either_side_of_levels :
    byLevel.groupBy = [notInfo.field] ∧
    notInfo.field ∉ byLevel.aggregations.map Aggregation.expression ∧
    (∀ r ∈ threeLevels, notInfo.field ∈ r.fields.keys) ∧
    ∃ kept whole : Table,
      Call.on (Stage.runAll [.filter notInfo, .stats byLevel] (.logs threeLevels)) [] =
        (.ok (.table kept), []) ∧
      Call.on (Stage.runAll [.stats byLevel, .filter notInfo] (.logs threeLevels)) [] =
        (.ok (.table whole), []) ∧
      kept.columns = whole.columns ∧ kept.rows = whole.rows ∧
      kept.sourceHits = threeLevels.countP notInfo.keepsRecord ∧
      whole.sourceHits = threeLevels.length := by
  have hapart : notInfo.field ∉ byLevel.aggregations.map Aggregation.expression := by decide
  have hfield : ∀ r ∈ threeLevels, notInfo.field ∈ r.fields.keys := by decide
  exact ⟨rfl, hapart, hfield, filter_on_either_side_of_groups rfl hapart hfield []⟩

end Stats

end PipeQuery
