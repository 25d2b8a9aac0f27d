import PipeQuery.Proofs.Frames
import PipeQuery.Sink

/-!
# What a sink holds

A sink takes exports one after the other (`FrameSink.deliverAll`) and keeps one
table for each target, as a frame of any lawful library.  What such a table holds is
said here without the sink: of all exports to the target it is the latest one that
replaced the others, or the first ever, and all behind it that stand
(`Export.standing`), and the table has their records row by row under their columns
(`Export.Stacked`).

* `Export.stacked_toFrame` and `Export.Stacked.append`: a table of one export, and a
  table that another export is added to;
* `Export.standing_snoc`: one more export replaces those that stand, or joins
  them;
* `FrameSink.Holds.deliver` and `FrameSink.holds_deliverAll`: from there, what one
  delivery preserves and, by induction on the exports, what the table of each
  target holds;
* `FrameSink.delivered`: what one more delivery does to all tables, and what it
  reports.
-/

namespace PipeQuery

/-! ## Names in order -/

section Names

variable {α : Type} [DecidableEq α]

theorem firstOccurrences_append (xs ys : List α) :
    firstOccurrences (xs ++ ys) =
      firstOccurrences xs ++ (firstOccurrences ys).filter fun y => y ∉ xs := by
  induction xs with
  | nil =>
      rw [List.nil_append, firstOccurrences, List.nil_append, List.filter_eq_self.2]
      simp
  | cons x xs ih =>
      rw [List.cons_append, firstOccurrences, ih, List.filter_append, List.filter_filter,
        firstOccurrences, List.cons_append]
      congr 2
      refine List.filter_congr fun y _ => ?_
      by_cases hy : y = x <;> simp [hy]

theorem firstOccurrences_of_nodup {xs : List α} (h : xs.Nodup) : firstOccurrences xs = xs := by
  induction xs with
  | nil => rfl
  | cons x xs ih =>
      rw [List.nodup_cons] at h
      rw [firstOccurrences, ih h.2, List.filter_eq_self.2]
      intro y hy
      have hne : y ≠ x := fun heq => h.1 (heq ▸ hy)
      simp [hne]

theorem firstOccurrences_filter {α : Type} [DecidableEq α] (p : α → Bool) (items : List α) :
    firstOccurrences (items.filter p) = (firstOccurrences items).filter p := by
  induction items with
  | nil => rfl
  | cons a rest ih =>
      by_cases ha : p a = true
      · rw [List.filter_cons_of_pos ha, firstOccurrences, firstOccurrences,
          List.filter_cons_of_pos ha, ih, List.filter_filter, List.filter_filter]
        simp only [Bool.and_comm]
      · rw [List.filter_cons_of_neg ha, firstOccurrences, List.filter_cons_of_neg ha, ih,
          List.filter_filter]
        refine List.filter_congr fun b _ => ?_
        by_cases hb : b = a
        · simp [hb, ha]
        · simp [hb]

/-- Repeats may be left out beforehand. -/
theorem firstOccurrences_flatMap {ι : Type} (f : ι → List α) (items : List ι) :
    firstOccurrences (items.flatMap fun i => firstOccurrences (f i)) =
      firstOccurrences (items.flatMap f) := by
  induction items with
  | nil => rfl
  | cons i items ih =>
      rw [List.flatMap_cons, List.flatMap_cons, firstOccurrences_append, firstOccurrences_append,
        ih, firstOccurrences_of_nodup (nodup_firstOccurrences (f i))]
      simp [mem_firstOccurrences]

end Names

/-- The entries of a map have each key once. -/
theorem OrderedMap.lastValue?_entries {κ α : Type} [DecidableEq κ] (key : κ)
    (m : OrderedMap κ α) : lastValue? key m.entries = m.get? key := by
  rw [lastValue?, filter_entries]
  cases m.get? key <;> rfl

/-! ## Exports -/

/-- The names of what a record has: its own parts, then its fields. -/
def Record.names (r : Record) : List String :=
  "timestamp" :: "source" :: "raw_text" :: r.fields.keys

/-- What a record has by a name.  A field goes before a part of its own that is
called the same. -/
def Record.valueOf (r : Record) (name : String) : FrameCell :=
  ((r.get? name).map FrameCell.text).getD <|
    if name = "timestamp" then .ofTime? r.timestamp
    else if name = "source" then .ofText? r.source
    else if name = "raw_text" then .text r.raw
    else .empty

namespace Export

/-- The fields that are asked for, or nothing. -/
def asked (e : Export) : List String := e.fields.getD []

/-- The columns of an export: exactly those asked for, or else all names that its
records have, in the order of their first appearance. -/
def columns (e : Export) : List String :=
  if e.asked.isEmpty then firstOccurrences (e.records.flatMap Record.names) else e.asked

/-- The cell of a record of an export: empty where the export has no such column
or the record no such value. -/
def cell (e : Export) (r : Record) (column : String) : FrameCell :=
  if column ∈ e.columns then r.valueOf column else .empty

/-- The latest export that replaced those in front of it, or the first ever, and
all behind it. -/
def sinceReplaced : List Export → List Export
  | [] => []
  | e :: rest => if rest.all Export.append then e :: rest else sinceReplaced rest

/-- The exports to a target that stand. -/
def standing (target : String) (exports : List Export) : List Export :=
  sinceReplaced (exports.filter fun e => e.target = target)

theorem nodup_columns {e : Export} (h : e.asked.Nodup) : e.columns.Nodup := by
  unfold columns
  split
  · exact nodup_firstOccurrences _
  · exact h

theorem cell_of_notMem {e : Export} {column : String} (h : column ∉ e.columns) (r : Record) :
    e.cell r column = .empty := if_neg h

/-- **One more export** replaces all others or joins those that stand. -/
theorem sinceReplaced_snoc (exports : List Export) (e : Export) :
    sinceReplaced (exports ++ [e]) =
      if e.append then sinceReplaced exports ++ [e] else [e] := by
  induction exports with
  | nil => cases happend : e.append <;> simp [sinceReplaced]
  | cons first rest ih =>
      rw [List.cons_append, sinceReplaced, ih, sinceReplaced]
      cases happend : e.append with
      | false => simp [happend]
      | true =>
          cases hrest : rest.all Export.append <;> simp [happend, hrest]

theorem sinceReplaced_eq_nil {exports : List Export} : sinceReplaced exports = [] ↔ exports = [] := by
  induction exports with
  | nil => simp [sinceReplaced]
  | cons first rest ih =>
      rw [sinceReplaced]
      split
      · simp
      · next hreplaced =>
        have hrest : rest ≠ [] := by
          rintro rfl
          simp at hreplaced
        simp [ih, hrest]

theorem standing_snoc (target : String) (exports : List Export) (e : Export) :
    standing target (exports ++ [e]) =
      if e.target = target then
        if e.append then standing target exports ++ [e] else [e]
      else standing target exports := by
  rw [standing, List.filter_append]
  by_cases htarget : e.target = target
  · have hlast : [e].filter (fun e => decide (e.target = target)) = [e] := by simp [htarget]
    rw [hlast, sinceReplaced_snoc, if_pos htarget, standing]
  · simp [htarget, standing]

/-- A target has exports that stand if it has any. -/
theorem standing_eq_nil {target : String} {exports : List Export} :
    standing target exports = [] ↔ (exports.any fun e => e.target = target) = false := by
  simp [standing, sinceReplaced_eq_nil, List.filter_eq_nil_iff]

end Export

/-! ## Cells of records -/

namespace Record

/-- The cells of a record are its own parts, and then its fields. -/
theorem cells_eq (r : Record) :
    r.cells = .ofList
      ([("timestamp", .ofTime? r.timestamp), ("source", .ofText? r.source),
        ("raw_text", .text r.raw)] ++ r.fields.entries.map fun e => (e.1, .text e.2)) := by
  rw [OrderedMap.ofList, List.foldl_append, List.foldl_map]
  rfl

theorem keys_cells (r : Record) : r.cells.keys = firstOccurrences r.names := by
  rw [cells_eq, OrderedMap.keys_ofList, List.map_append, List.map_map]
  rfl

theorem get?_cells (r : Record) (column : String) :
    (r.cells.get? column).getD .empty = r.valueOf column := by
  have hfields : r.cells.get? column =
      ((r.get? column).map FrameCell.text).or (OrderedMap.get? (.ofList
        [("timestamp", .ofTime? r.timestamp), ("source", .ofText? r.source),
          ("raw_text", .text r.raw)]) column) := by
    rw [Record.get?, ← OrderedMap.lastValue?_entries column r.fields, ← OrderedMap.lastValue?_map,
      ← OrderedMap.get?_foldl_insert, List.foldl_map]
    rfl
  rw [hfields, Record.valueOf]
  cases r.get? column with
  | some text => rfl
  | none =>
      rw [OrderedMap.get?_ofList]
      simp only [OrderedMap.lastValue?_cons]
      by_cases htime : column = "timestamp"
      · simp [htime, OrderedMap.lastValue?]
      · by_cases hsource : column = "source"
        · simp [hsource, OrderedMap.lastValue?]
        · by_cases hraw : column = "raw_text"
          · simp [hraw, OrderedMap.lastValue?]
          · simp [htime, hsource, hraw, OrderedMap.lastValue?]

/-- What a record has by none of its names is nothing. -/
theorem valueOf_of_notMem {r : Record} {column : String} (h : column ∉ r.names) :
    r.valueOf column = .empty := by
  have hnone : r.cells.get? column = none := by
    rw [← Option.not_isSome_iff_eq_none, OrderedMap.isSome_get?_iff, keys_cells,
      mem_firstOccurrences]
    exact h
  rw [← get?_cells, hnone]
  rfl

/-- A record has texts and a time, and no numbers. -/
theorem isNumber_valueOf (r : Record) (column : String) :
    (r.valueOf column).isNumber = false := by
  unfold valueOf
  cases r.get? column with
  | some text => rfl
  | none =>
      rw [Option.map_none, Option.getD_none]
      split
      · cases r.timestamp <;> rfl
      · split
        · cases r.source <;> rfl
        · split <;> rfl

end Record

/-! ## Tables -/

namespace Export

theorem isNumber_cell (e : Export) (r : Record) (column : String) :
    (e.cell r column).isNumber = false := by
  unfold cell
  split
  · exact r.isNumber_valueOf column
  · rfl

/-- The records of some exports, one after the other, each with its export. -/
def entries (exports : List Export) : List (Export × Record) :=
  exports.flatMap fun e => e.records.map fun r => (e, r)

theorem entries_snoc (exports : List Export) (e : Export) :
    entries (exports ++ [e]) = entries exports ++ e.records.map fun r => (e, r) := by
  rw [entries, entries, List.flatMap_append, List.flatMap_singleton]

variable {F : Type} [FrameLibrary F]

/-- The frame has the records of some exports row by row, in order, under the columns of
all of them in the order of their first appearance. -/
structure Stacked (exports : List Export) (f : F) : Prop where
  columns : FrameLibrary.columns f = firstOccurrences (exports.flatMap Export.columns)
  rowCount : FrameLibrary.rowCount f = (entries exports).length
  cell : ∀ (place : Nat) (e : Export) (r : Record), (entries exports)[place]? = some (e, r) →
    ∀ column ∈ FrameLibrary.columns f, FrameLibrary.cell f place column = e.cell r column

/-- The rows of an export, before any columns are selected. -/
def rows (e : Export) : List (OrderedMap String FrameCell) := e.records.map Record.cells

theorem toFrame_eq (e : Export) : (e.toFrame : F) =
    if e.asked.isEmpty then FrameLibrary.ofRows e.rows
    else FrameLibrary.select e.asked (FrameLibrary.ofRows e.rows) := by
  unfold toFrame asked
  cases e.fields with
  | none => rfl
  | some names => cases names <;> rfl

variable [FrameLibrary.Lawful F] {e : Export}

open FrameLibrary.Lawful

theorem columns_ofRows_rows (e : Export) :
    FrameLibrary.columns (FrameLibrary.ofRows e.rows : F) =
      firstOccurrences (e.records.flatMap Record.names) := by
  rw [columns_ofRows, rows, List.flatMap_map]
  simp only [Record.keys_cells, firstOccurrences_flatMap]

/-- The cells of rows that are made of records. -/
theorem cell_ofRows_rows {place : Nat} {r : Record} {column : String}
    (hr : e.records[place]? = some r)
    (hcolumn : column ∈ FrameLibrary.columns (FrameLibrary.ofRows e.rows : F)) :
    FrameLibrary.cell (FrameLibrary.ofRows e.rows : F) place column = r.valueOf column := by
  have hrow : e.rows[place]? = some r.cells := by
    rw [rows, List.getElem?_map, hr, Option.map_some]
  have hcell : ((r.cells.get? column).getD .empty).isNumber = false := by
    rw [r.get?_cells]
    exact r.isNumber_valueOf column
  rw [cell_ofRows hrow hcolumn hcell, r.get?_cells]

theorem columns_toFrame (h : e.asked.Nodup) : FrameLibrary.columns (e.toFrame : F) = e.columns := by
  rw [toFrame_eq, columns]
  split
  · exact columns_ofRows_rows e
  · exact columns_select h _

theorem rowCount_toFrame (e : Export) :
    FrameLibrary.rowCount (e.toFrame : F) = e.records.length := by
  have hrows : FrameLibrary.rowCount (FrameLibrary.ofRows e.rows : F) = e.records.length := by
    rw [rowCount_ofRows, rows, List.length_map]
  rw [toFrame_eq]
  split
  · exact hrows
  · exact (rowCount_select _ _).trans hrows

theorem cell_toFrame (h : e.asked.Nodup) {place : Nat} {r : Record} {column : String}
    (hr : e.records[place]? = some r) (hcolumn : column ∈ e.columns) :
    FrameLibrary.cell (e.toFrame : F) place column = e.cell r column := by
  rw [Export.cell, if_pos hcolumn, toFrame_eq]
  rw [columns] at hcolumn
  split
  · next hall =>
    rw [if_pos hall, ← columns_ofRows_rows (F := F)] at hcolumn
    exact cell_ofRows_rows hr hcolumn
  · next hsome =>
    rw [if_neg hsome] at hcolumn
    have hplace : place < FrameLibrary.rowCount (FrameLibrary.ofRows e.rows : F) := by
      rw [rowCount_ofRows, rows, List.length_map]
      exact (List.getElem?_eq_some_iff.1 hr).1
    have hvalue : column ∈ FrameLibrary.columns (FrameLibrary.ofRows e.rows : F) →
        FrameLibrary.cell (FrameLibrary.ofRows e.rows : F) place column = r.valueOf column :=
      cell_ofRows_rows hr
    rw [cell_select h hplace hcolumn fun hold => by
      rw [hvalue hold]
      exact r.isNumber_valueOf column]
    split
    · next hold => exact hvalue hold
    · next hnew =>
      -- no record has such a name
      rw [columns_ofRows_rows, mem_firstOccurrences, List.mem_flatMap] at hnew
      refine (Record.valueOf_of_notMem fun hname => hnew ⟨r, ?_, hname⟩).symm
      exact List.mem_of_getElem? hr

/-- **A table of one export** has the records of that export under its columns. -/
theorem stacked_toFrame (h : e.asked.Nodup) : Stacked [e] (e.toFrame : F) where
  columns := by
    rw [columns_toFrame h, List.flatMap_singleton, firstOccurrences_of_nodup (nodup_columns h)]
  rowCount := by
    rw [rowCount_toFrame, entries, List.flatMap_singleton, List.length_map]
  cell place d r hentry column hcolumn := by
    rw [entries, List.flatMap_singleton, List.getElem?_map, Option.map_eq_some_iff] at hentry
    obtain ⟨_, hr, hpair⟩ := hentry
    cases hpair
    rw [columns_toFrame h] at hcolumn
    exact cell_toFrame h hr hcolumn

/-- **A table that an export is added to** has the records of that export behind the
others, under the columns of all. -/
theorem Stacked.append {exports : List Export} {f : F} (hf : Stacked exports f)
    (h : e.asked.Nodup) : Stacked (exports ++ [e]) (FrameLibrary.append f e.toFrame) := by
  have hfnodup : (FrameLibrary.columns f).Nodup := hf.columns ▸ nodup_firstOccurrences _
  have henodup : (FrameLibrary.columns (e.toFrame : F)).Nodup :=
    columns_toFrame (F := F) h ▸ nodup_columns h
  refine ⟨?_, ?_, fun place d r hentry column hcolumn => ?_⟩
  · rw [columns_append hfnodup henodup, columns_toFrame h, hf.columns, List.flatMap_append,
      List.flatMap_singleton, firstOccurrences_append, firstOccurrences_of_nodup (nodup_columns h)]
    simp only [mem_firstOccurrences]
  · rw [rowCount_append hfnodup henodup, rowCount_toFrame, hf.rowCount, entries_snoc,
      List.length_append, List.length_map]
  · rw [entries_snoc] at hentry
    rcases Nat.lt_or_ge place (entries exports).length with hold | hnew
    · rw [List.getElem?_append_left hold] at hentry
      have hkept : column ∈ FrameLibrary.columns f →
          FrameLibrary.cell f place column = d.cell r column := hf.cell place d r hentry column
      rw [cell_append_left hfnodup henodup (hf.rowCount ▸ hold) hcolumn fun hold => by
        rw [hkept hold]
        exact d.isNumber_cell r column]
      split
      · next hold => exact hkept hold
      · next hnew =>
        rw [hf.columns, mem_firstOccurrences, List.mem_flatMap] at hnew
        obtain ⟨_, hd, hr⟩ := List.mem_flatMap.1 (List.mem_of_getElem? hentry)
        obtain ⟨_, -, hpair⟩ := List.mem_map.1 hr
        cases hpair
        exact (cell_of_notMem (fun hmem => hnew ⟨d, hd, hmem⟩) r).symm
    · rw [List.getElem?_append_right hnew, List.getElem?_map, Option.map_eq_some_iff] at hentry
      obtain ⟨_, hr, hpair⟩ := hentry
      cases hpair
      have hplace : place - (entries exports).length < FrameLibrary.rowCount (e.toFrame : F) := by
        rw [rowCount_toFrame]
        exact (List.getElem?_eq_some_iff.1 hr).1
      have hcell : column ∈ FrameLibrary.columns (e.toFrame : F) →
          FrameLibrary.cell (e.toFrame : F) (place - (entries exports).length) column =
            e.cell r column := fun hmem =>
        cell_toFrame h hr (columns_toFrame (F := F) h ▸ hmem)
      have hsum : place =
          FrameLibrary.rowCount f + (place - (entries exports).length) := by
        rw [hf.rowCount]
        omega
      rw [hsum, cell_append_right hfnodup henodup hplace hcolumn fun hmem => by
        rw [hcell hmem]
        exact e.isNumber_cell r column]
      split
      · next hmem => exact hcell hmem
      · next hnew =>
        rw [columns_toFrame h] at hnew
        exact (cell_of_notMem hnew r).symm

end Export

/-! ## Deliveries -/

namespace FrameSink

variable {F : Type} [FrameLibrary F]

/-- An empty sink that has taken some exports. -/
def deliverAll (exports : List Export) : FrameSink F :=
  exports.foldl (fun sink e => (sink.deliver e).2) empty

/-- The table that some exports make, if there are any. -/
inductive HeldAs : List Export → Option F → Prop
  | nothing : HeldAs [] none
  | table {first : Export} {rest : List Export} {f : F} (h : Export.Stacked (first :: rest) f) :
      HeldAs (first :: rest) (some f)

theorem HeldAs.isSome_iff {exports : List Export} {held : Option F} (h : HeldAs exports held) :
    held.isSome = true ↔ exports ≠ [] := by
  cases h <;> simp

/-- For each target there is a table of the exports that stand. -/
def Holds (sink : FrameSink F) (exports : List Export) : Prop :=
  ∀ target, HeldAs (Export.standing target exports) (sink.tables.get? target)

/-- A delivery changes the table of its target and no other. -/
theorem get?_deliver (sink : FrameSink F) (e : Export) (target : String) :
    (sink.deliver e).2.tables.get? target =
      if target = e.target then some (sink.tableAfter e) else sink.tables.get? target :=
  OrderedMap.get?_insert ..

variable [FrameLibrary.Lawful F]

theorem Holds.stacked_tableAfter {sink : FrameSink F} {exports : List Export} {e : Export}
    (h : sink.Holds exports) (hfields : e.asked.Nodup) :
    Export.Stacked (Export.standing e.target (exports ++ [e])) (sink.tableAfter e) := by
  rw [tableAfter, Export.standing_snoc, if_pos rfl]
  have hheld := h e.target
  generalize Export.standing e.target exports = standing at hheld ⊢
  generalize sink.tables.get? e.target = held at hheld ⊢
  cases hheld with
  | nothing =>
      rw [List.nil_append, ite_self]
      exact Export.stacked_toFrame hfields
  | table hstacked =>
      dsimp only
      split
      · exact hstacked.append hfields
      · exact Export.stacked_toFrame hfields

/-- **One delivery**: the sink holds that export, too. -/
theorem Holds.deliver {sink : FrameSink F} {exports : List Export} {e : Export}
    (h : sink.Holds exports) (hfields : e.asked.Nodup) :
    (sink.deliver e).2.Holds (exports ++ [e]) := by
  intro target
  rw [get?_deliver]
  split
  · next htarget =>
    have hstacked := h.stacked_tableAfter hfields
    rw [htarget]
    cases hstanding : Export.standing e.target (exports ++ [e]) with
    | nil =>
        rw [Export.standing_eq_nil] at hstanding
        simp at hstanding
    | cons first rest => exact .table (hstanding ▸ hstacked)
  · next htarget =>
    rw [Export.standing_snoc, if_neg (Ne.symm htarget)]
    exact h target

/-- **What a sink holds**, whatever it has taken. -/
theorem holds_deliverAll {exports : List Export} (hfields : ∀ e ∈ exports, e.asked.Nodup) :
    (deliverAll exports : FrameSink F).Holds exports := by
  have hfold : ∀ (rest before : List Export) (sink : FrameSink F), sink.Holds before →
      (∀ e ∈ rest, e.asked.Nodup) →
      (rest.foldl (fun sink e => (sink.deliver e).2) sink).Holds (before ++ rest) := by
    intro rest
    induction rest with
    | nil =>
        intro before sink hsink _
        rwa [List.append_nil]
    | cons e rest ih =>
        intro before sink hsink hrest
        rw [List.foldl_cons, List.append_cons]
        refine ih (before ++ [e]) _ (hsink.deliver (hrest e (by simp))) ?_
        exact fun d hd => hrest d (by simp [hd])
  exact hfold exports [] empty (fun _ => .nothing) hfields

/-- **A delivery**, whatever was delivered before, to a sink with frames of a lawful
library.  The table of its target has one row for each record of each export that
stands, under their columns in the order of their first appearance; the tables of all
other targets are as they were; and the records of the export and all rows of the table
are counted. -/
theorem delivered (exports : List Export) (e : Export)
    (hfields : ∀ d ∈ exports ++ [e], d.asked.Nodup) :
    let sink : FrameSink F := deliverAll exports
    ∃ table, (sink.deliver e).2.tables.get? e.target = some table ∧
      Export.Stacked (Export.standing e.target (exports ++ [e])) table ∧
      (∀ target, target ≠ e.target →
        (sink.deliver e).2.tables.get? target = sink.tables.get? target) ∧
      (sink.deliver e).1 = ⟨e.target, e.records.length, FrameLibrary.rowCount table,
        FrameLibrary.columns table, e.append && exports.any fun d => d.target = e.target⟩ := by
  intro sink
  have hsink : sink.Holds exports := holds_deliverAll fun d hd => hfields d (by simp [hd])
  have hknown : (sink.tables.get? e.target).isSome = exports.any fun d => d.target = e.target := by
    rw [Bool.eq_iff_iff, (hsink e.target).isSome_iff, ne_eq, Export.standing_eq_nil,
      Bool.not_eq_false]
  refine ⟨sink.tableAfter e, ?_, hsink.stacked_tableAfter (hfields e (by simp)), ?_, ?_⟩
  · rw [get?_deliver, if_pos rfl]
  · intro target hother
    rw [get?_deliver, if_neg hother]
  · rw [FrameSink.deliver, hknown]

/-! ### Two targets -/

/-- A record with a field that is called like a part of its own. -/
def nightly : Record :=
  { (default : Record) with
    raw := "backup done", source := some "cron",
    fields := .ofList [("timestamp", "02:00"), ("user", "ann")] }

/-- A record with a field of its own. -/
def diskFull : Record :=
  { (default : Record) with raw := "disk full", fields := .ofList [("level", "warn")] }

/-- Two exports to a target with one to another target between them; the second
one replaces the first. -/
def threeExports : List Export :=
  [⟨[nightly], "alerts", none, none, true, 1⟩,
    ⟨[], "audit", some ["user"], none, true, 0⟩,
    ⟨[diskFull], "alerts", some ["raw_text", "level", "host"], none, false, 1⟩]

/-- The columns of what stands at last, with the records of two exports. -/
def alertsTable : Frame :=
  ⟨["raw_text", "level", "host", "timestamp", "source", "user"],
    [[.text "disk full", .text "warn", .empty, .empty, .empty, .empty],
      [.text "backup done", .empty, .empty, .text "02:00", .text "cron", .text "ann"]]⟩

/-- A fourth one is added to what stands of its target. -/
def fourthExport : Export := ⟨[nightly], "alerts", none, none, true, 1⟩

theorem delivered_nightly :
    (∀ d ∈ threeExports ++ [fourthExport], d.asked.Nodup) ∧
    Export.standing "alerts" (threeExports ++ [fourthExport]) =
      [⟨[diskFull], "alerts", some ["raw_text", "level", "host"], none, false, 1⟩,
        fourthExport] ∧
    Export.Stacked (Export.standing "alerts" (threeExports ++ [fourthExport])) alertsTable ∧
    ((deliverAll threeExports : FrameSink Frame).deliver fourthExport).2.tables.get? "alerts" =
      some alertsTable ∧
    ((deliverAll threeExports : FrameSink Frame).deliver fourthExport).2.tables.get? "audit" =
      some ⟨["user"], []⟩ ∧
    ((deliverAll threeExports : FrameSink Frame).deliver fourthExport).1 =
      ⟨"alerts", 1, 2, ["raw_text", "level", "host", "timestamp", "source", "user"], true⟩ := by
  have hfields : ∀ d ∈ threeExports ++ [fourthExport], d.asked.Nodup := by decide
  obtain ⟨table, htable, hstacked, hothers, hsummary⟩ :=
    delivered (F := Frame) threeExports fourthExport hfields
  have halerts : ((deliverAll threeExports : FrameSink Frame).deliver fourthExport).2.tables.get?
      "alerts" = some alertsTable := by decide +kernel
  obtain rfl : table = alertsTable := Option.some.inj (htable.symm.trans halerts)
  refine ⟨hfields, by decide +kernel, hstacked, halerts, ?_, hsummary.trans ?_⟩
  · exact (hothers "audit" (by decide)).trans (by decide +kernel)
  · decide +kernel

end FrameSink

end PipeQuery
