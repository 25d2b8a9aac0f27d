import PipeQuery.Proofs.Outcome
import PipeQuery.Stage.Basic
import Mathlib.Data.List.Basic

/-!
# Stages that work row by row

Filters and transforms look at one record or one row at a time.  A chain of
them may run on records or on a table; the cells of a table may be numbers,
while the fields of a record are texts.

* `Transform.shown_apply`: what a transform writes depends on the texts of the
  cells only, and whether a value is kept as a number does not show in them.
* `RowStage.on_runAll_logs`, `RowStage.on_runAll_table`: a chain never fails,
  writes no log, and passes the records or rows that it leaves on to what comes
  behind it.
* `RowStage.tables_agree_with_records`: on a table and on records with the
  texts of its rows, every chain leaves the same texts.
-/

namespace PipeQuery

/-- The texts of the cells. -/
def Row.shown (row : Row) : Fields := row.mapValues Cell.shown

/-- The cells that hold the texts of a record. -/
def Row.ofFields (fields : Fields) : Row := fields.mapValues Cell.text

namespace Row

@[simp]
theorem shown_ofFields (fields : Fields) : (ofFields fields).shown = fields := by
  simp [ofFields, shown, Cell.shown]

@[simp]
theorem get?_shown (row : Row) (field : String) :
    row.shown.get? field = (row.get? field).map Cell.shown :=
  OrderedMap.get?_mapValues ..

@[simp]
theorem shown_insert (row : Row) (field : String) (cell : Cell) :
    Row.shown (row.insert field cell) = row.shown.insert field cell.shown :=
  OrderedMap.mapValues_insert ..

@[simp]
theorem shown_erase (row : Row) (field : String) : Row.shown (row.erase field) = row.shown.erase field :=
  OrderedMap.mapValues_erase ..

section Alike

variable {row row' : Row} (h : row.shown = row'.shown)

include h

theorem get?_alike (field : String) :
    (row.get? field).map Cell.shown = (row'.get? field).map Cell.shown := by
  rw [← get?_shown, h, get?_shown]

/-- Rows with the same texts have the same columns. -/
theorem get?_cases (field : String) :
    (row.get? field = none ∧ row'.get? field = none) ∨
      ∃ cell cell', row.get? field = some cell ∧ row'.get? field = some cell' ∧
        cell.shown = cell'.shown := by
  have hfield := get?_alike h field
  cases hcell : row.get? field with
  | none =>
      rw [hcell, Option.map_none, eq_comm, Option.map_eq_none_iff] at hfield
      exact Or.inl ⟨rfl, hfield⟩
  | some cell =>
      rw [hcell, Option.map_some, eq_comm, Option.map_eq_some_iff] at hfield
      obtain ⟨cell', hcell', hshown⟩ := hfield
      exact Or.inr ⟨cell, cell', rfl, hcell', hshown.symm⟩

theorem map_shown_filterMap_get? (fields : List String) :
    (fields.filterMap row.get?).map Cell.shown = (fields.filterMap row'.get?).map Cell.shown := by
  rw [List.map_filterMap, List.map_filterMap]
  exact List.filterMap_congr fun field _ => get?_alike h field

end Alike

end Row

theorem ExpressionValue.shown_cell (value : ExpressionValue) (typed : Bool) :
    (if typed then value.toCell else .text value.toCell.shown).shown = value.toCell.shown := by
  cases typed <;> rfl

/-- **What a transform writes depends on texts only**, and whether a value is
kept as a number does not show in them. -/
theorem Transform.shown_apply (t : Transform) {row row' : Row} (h : row.shown = row'.shown)
    (typed typed' : Bool) : (t.apply typed row).shown = (t.apply typed' row').shown := by
  cases t with
  | rename field target =>
      rcases Row.get?_cases h field with ⟨hn, hn'⟩ | ⟨cell, cell', hc, hc', hshown⟩
      · simp [apply, hn, hn', h]
      · simp [apply, hc, hc', h, hshown]
  | extract field pattern target =>
      rcases Row.get?_cases h field with ⟨hn, hn'⟩ | ⟨cell, cell', hc, hc', hshown⟩
      · simp [apply, hn, hn', h]
      · simp only [apply, hc, hc', Option.bind_some, hshown]
        cases pattern.extract? cell'.shown with
        | none => exact h
        | some found => simp [h]
  | replace field pattern replacement =>
      rcases Row.get?_cases h field with ⟨hn, hn'⟩ | ⟨cell, cell', hc, hc', hshown⟩
      · simp [apply, hn, hn', h]
      · simp [apply, hc, hc', h, hshown]
  | merge sources target separator =>
      simp [apply, h, Row.map_shown_filterMap_get? h]
  | eval target expression =>
      have hvalues : row.mapValues Cell.shown = row'.mapValues Cell.shown := h
      simp only [apply, Row.shown_insert, ExpressionValue.shown_cell, hvalues, h]
  | remove field => simp [apply, h]

/-- A transform of a row shows what it does to the texts of the row. -/
theorem Transform.shown_apply_true (t : Transform) (row : Row) :
    (t.apply true row).shown = t.applyFields row.shown :=
  t.shown_apply (by rw [← Row.ofFields, Row.shown_ofFields]) true false

/-- A filter looks at texts only. -/
theorem Filter.keepsRow_eq (f : Filter) (row : Row) :
    f.keepsRow row = f.holds (row.shown.get? f.field) := by
  rw [keepsRow, Row.get?_shown]

/-! ## One stage -/

/-- A stage that works on one record or row at a time. -/
inductive RowStage where
  | filter (f : Filter)
  | transform (t : Transform)
  deriving DecidableEq

namespace RowStage

/-- The stage itself. -/
def toStage : RowStage → Stage
  | filter f => .filter f
  | transform t => .transform t

/-- What becomes of the fields of a record, if it is kept. -/
def onFields? : RowStage → Fields → Option Fields
  | filter f, fields => if f.holds (fields.get? f.field) then some fields else none
  | transform t, fields => some (t.applyFields fields)

/-- What becomes of a record, if it is kept. -/
def onRecord? (s : RowStage) (r : Record) : Option Record := (s.onFields? r.fields).map r.withFields

/-- What becomes of a row, if it is kept. -/
def onRow? : RowStage → Row → Option Row
  | filter f, row => if f.keepsRow row then some row else none
  | transform t, row => some (t.apply true row)

/-- What becomes of the columns of a table. -/
def onColumns : RowStage → List String → List String
  | filter _, columns => columns
  | transform t, columns => t.columns columns

/-- What the stage leaves of a table. -/
def onTable (s : RowStage) (t : Table) : Table :=
  { t with columns := s.onColumns t.columns, rows := t.rows.filterMap s.onRow? }

theorem map_fields_onRecord? (s : RowStage) (r : Record) :
    (s.onRecord? r).map Record.fields = s.onFields? r.fields := by
  simp [onRecord?, Record.withFields, Function.comp_def]

/-- The texts of a row become what the fields of a record with these texts
become. -/
theorem map_shown_onRow? (s : RowStage) (row : Row) :
    (s.onRow? row).map Row.shown = s.onFields? row.shown := by
  cases s with
  | filter f =>
      simp only [onRow?, onFields?, Filter.keepsRow_eq]
      split <;> rfl
  | transform t => simp [onRow?, onFields?, Transform.shown_apply_true]

/-- **One stage keeps the agreement** of a table with records. -/
theorem rows_agree (s : RowStage) {records : List Record} {rows : List Row}
    (h : records.map Record.fields = rows.map Row.shown) :
    (records.filterMap s.onRecord?).map Record.fields = (rows.filterMap s.onRow?).map Row.shown := by
  have hrecords : (records.filterMap s.onRecord?).map Record.fields =
      (records.map Record.fields).filterMap s.onFields? := by
    rw [List.map_filterMap, List.filterMap_map]
    exact List.filterMap_congr fun r _ => s.map_fields_onRecord? r
  have hrows : (rows.filterMap s.onRow?).map Row.shown =
      (rows.map Row.shown).filterMap s.onFields? := by
    rw [List.map_filterMap, List.filterMap_map]
    exact List.filterMap_congr fun row _ => s.map_shown_onRow? row
  rw [hrecords, hrows, h]

theorem on_step_logs (s : RowStage) (records : List Record) (log : List LogLine) :
    Call.on (s.toStage.step (.logs records)) log =
      (.ok (.logs (records.filterMap s.onRecord?)), log) := by
  cases s with
  | filter f =>
      have hkept : records.filter f.keepsRecord = records.filterMap (filter f).onRecord? := by
        rw [← List.filterMap_eq_filter]
        refine List.filterMap_congr fun r _ => ?_
        by_cases hr : f.holds (r.fields.get? f.field) = true
        · simp [onRecord?, onFields?, Filter.keepsRecord, Record.get?, Record.withFields, hr, Option.guard]
        · simp [onRecord?, onFields?, Filter.keepsRecord, Record.get?, hr, Option.guard]
      rw [← hkept]
      rfl
  | transform t =>
      have hmapped : records.map t.applyRecord = records.filterMap (transform t).onRecord? := by
        rw [← List.filterMap_eq_map]
        rfl
      rw [← hmapped]
      rfl

theorem on_step_table (s : RowStage) (t : Table) (log : List LogLine) :
    Call.on (s.toStage.step (.table t)) log = (.ok (.table (s.onTable t)), log) := by
  cases s with
  | filter f =>
      have hkept : t.rows.filter f.keepsRow = t.rows.filterMap (filter f).onRow? := by
        rw [← List.filterMap_eq_filter]
        refine List.filterMap_congr fun row _ => ?_
        simp [onRow?, Option.guard]
      rw [onTable, ← hkept]
      rfl
  | transform u =>
      have hmapped : t.rows.map (u.apply true) = t.rows.filterMap (transform u).onRow? := by
        rw [← List.filterMap_eq_map]
        rfl
      rw [onTable, ← hmapped]
      rfl

/-! ## Chains -/

/-- The records that a chain leaves. -/
def recordsAfter (chain : List RowStage) (records : List Record) : List Record :=
  chain.foldl (fun records s => records.filterMap s.onRecord?) records

/-- The table that a chain leaves. -/
def tableAfter (chain : List RowStage) (t : Table) : Table :=
  chain.foldl (fun t s => s.onTable t) t

/-- **A chain passes the records it leaves on** to what comes behind it. -/
theorem on_runAll_logs (chain : List RowStage) (rest : List Stage) (records : List Record)
    (log : List LogLine) :
    Call.on (Stage.runAll (chain.map toStage ++ rest) (.logs records)) log =
      Call.on (Stage.runAll rest (.logs (recordsAfter chain records))) log := by
  induction chain generalizing records with
  | nil => rfl
  | cons s chain ih =>
      rw [List.map_cons, List.cons_append, Stage.runAll, Call.on_bind_ok (on_step_logs ..), ih]
      rfl

/-- A chain passes the table it leaves on to what comes behind it. -/
theorem on_runAll_table (chain : List RowStage) (rest : List Stage) (t : Table)
    (log : List LogLine) :
    Call.on (Stage.runAll (chain.map toStage ++ rest) (.table t)) log =
      Call.on (Stage.runAll rest (.table (tableAfter chain t))) log := by
  induction chain generalizing t with
  | nil => rfl
  | cons s chain ih =>
      rw [List.map_cons, List.cons_append, Stage.runAll, Call.on_bind_ok (on_step_table ..), ih]
      rfl

/-- A whole chain keeps the agreement of a table with records. -/
theorem rows_agree_after (chain : List RowStage) {records : List Record} {t : Table}
    (h : records.map Record.fields = t.rows.map Row.shown) :
    (recordsAfter chain records).map Record.fields = (tableAfter chain t).rows.map Row.shown := by
  induction chain generalizing records t with
  | nil => exact h
  | cons s chain ih => exact ih (t := s.onTable t) (s.rows_agree h)

/-- **Tables agree with records**: on a table, and on records that have the
texts of its rows as their fields, every chain of filters and transforms comes
to an end, and the rows it leaves have the texts of the records it leaves, in
the same order and each with its fields in the same order. -/
theorem tables_agree_with_records (chain : List RowStage) {t : Table} {records : List Record}
    (h : records.map Record.fields = t.rows.map Row.shown) (log : List LogLine) :
    ∃ t' records',
      Call.on (Stage.runAll (chain.map toStage) (.table t)) log = (.ok (.table t'), log) ∧
      Call.on (Stage.runAll (chain.map toStage) (.logs records)) log =
        (.ok (.logs records'), log) ∧
      records'.map Record.fields = t'.rows.map Row.shown := by
  refine ⟨tableAfter chain t, recordsAfter chain records, ?_, ?_, rows_agree_after chain h⟩
  · rw [← List.append_nil (chain.map toStage), on_runAll_table]
    rfl
  · rw [← List.append_nil (chain.map toStage), on_runAll_logs]
    rfl

/-- An eighth of a number, kept under the name `half` if it is written `0.5`, and
then doubled. -/
def halving : List RowStage :=
  [.transform (.eval "half" "n / 8"),
    .filter ⟨"half", "0.5", .comparison .equal⟩,
    .transform (.eval "whole" "half * 2")]

/-- A table of whole numbers. -/
def wholeNumbers : Table where
  columns := ["n"]
  rows := [.ofList [("n", .number (.integer 3))], .ofList [("n", .number (.integer 4))]]
  sourceHits := 2

/-- Records with the same texts. -/
def writtenNumbers : List Record :=
  [{ (default : Record) with fields := .ofList [("n", "3")] },
    { (default : Record) with fields := .ofList [("n", "4")] }]

/-- The table keeps what is evaluated as a number, and a later stage reads it
like the text of a record. -/
theorem halving_agrees :
    writtenNumbers.map Record.fields = wholeNumbers.rows.map Row.shown ∧
    ∃ t' records',
      Call.on (Stage.runAll (halving.map toStage) (.table wholeNumbers)) [] = (.ok (.table t'), []) ∧
      Call.on (Stage.runAll (halving.map toStage) (.logs writtenNumbers)) [] =
        (.ok (.logs records'), []) ∧
      records'.map Record.fields = t'.rows.map Row.shown :=
  have h : writtenNumbers.map Record.fields = wholeNumbers.rows.map Row.shown := by decide +kernel
  ⟨h, tables_agree_with_records halving h []⟩

example : (recordsAfter halving writtenNumbers).map (fun r => r.fields.entries) =
    [[("n", "4"), ("half", "0.5"), ("whole", "1.0")]] := by decide +kernel

end RowStage

end PipeQuery
