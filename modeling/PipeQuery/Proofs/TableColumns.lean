import PipeQuery.Frame
import PipeQuery.Proofs.RowStages
import Mathlib.Data.List.Nodup

/-!
# Columns and the cells under them

A frame, and the records that an export makes of a table, show the listed columns
of the table and nothing else.  So a cell can be seen only if its key is a column
(`Table.showsCell_iff`), and a table shows all its cells if it is covered by its
columns (`Table.Covered`).

A transform rewrites the columns of a table apart from its rows.  The two stay
together in every operation but one: a renaming of a field to itself keeps the
field in the rows that have it, and strikes its column.

* `Transform.nodup_columns`: columns that are different stay so.
* `Transform.keys_apply_listed_iff`: the keys of a transformed row are columns of the
  transformed table, unless the row has the field that is renamed to itself.
* `RowStage.covered_onTable_iff`: so one stage keeps a table covered if and only if
  it strikes no column.
* `RowStage.covered_along_chain`: a chain does, table after table, if and only if
  none of its stages strikes a column.
-/

namespace PipeQuery

/-! ## What can be seen of a table -/

/-- A cell of the row at some place can be seen: the frame of the table has it in the
column of its key, and the record that is made of the row has its text as a field. -/
structure Table.ShowsCell (t : Table) (place : Nat) (row : Row) (key : String) (cell : Cell) :
    Prop where
  frame : ∃ (column : Nat) (shown : FrameCell), (Frame.ofTable t).columns[column]? = some key ∧
    ((Frame.ofTable t).rows[place]?.bind fun cells => cells[column]?) = some shown ∧
    (shown = .ofCell cell ∨ shown = (FrameCell.ofCell cell).toBinary)
  record : (ExportStage.recordOfRow t.columns row).get? key = some cell.shown

/-- Every cell of the table can be seen. -/
def Table.ShowsAllCells (t : Table) : Prop :=
  ∀ (place : Nat) (row : Row) (key : String) (cell : Cell), t.rows[place]? = some row →
    row.get? key = some cell → t.ShowsCell place row key cell

/-- The columns are different, and every key of every row is a column. -/
structure Table.Covered (t : Table) : Prop where
  nodup : t.columns.Nodup
  keys : ∀ row ∈ t.rows, ∀ key ∈ row.keys, key ∈ t.columns

/-- A column settles its cells one by one. -/
theorem getElem?_settleColumn {cells : List FrameCell} {place : Nat} {cell : FrameCell}
    (h : cells[place]? = some cell) :
    ∃ shown, (settleColumn cells)[place]? = some shown ∧ (shown = cell ∨ shown = cell.toBinary) := by
  unfold settleColumn
  split
  · exact ⟨cell.toBinary, by rw [List.getElem?_map, h]; rfl, .inr rfl⟩
  · exact ⟨cell, h, .inl rfl⟩

namespace Table

theorem columns_ofTable (t : Table) : (Frame.ofTable t).columns = t.columns := by
  simp [Frame.ofTable, Frame.ofColumns, Function.comp_def]

/-- The cells of a table at their places in its frame. -/
theorem cell_ofTable {t : Table} {place column : Nat} {row : Row} {key : String} {cell : Cell}
    (hrow : t.rows[place]? = some row) (hcell : row.get? key = some cell)
    (hcolumn : t.columns[column]? = some key) :
    ∃ shown, ((Frame.ofTable t).rows[place]?.bind fun cells => cells[column]?) = some shown ∧
      (shown = .ofCell cell ∨ shown = (FrameCell.ofCell cell).toBinary) := by
  have hplace : place < t.rows.length := (List.getElem?_eq_some_iff.1 hrow).1
  have hunsettled : (t.rows.map fun row =>
      ((row.get? key).map FrameCell.ofCell).getD .empty)[place]? = some (.ofCell cell) := by
    rw [List.getElem?_map, hrow, Option.map_some, hcell]
    rfl
  obtain ⟨shown, hshown, hkind⟩ := getElem?_settleColumn hunsettled
  refine ⟨shown, ?_, hkind⟩
  simp [Frame.ofTable, Frame.ofColumns, List.getElem?_range hplace, hcolumn, hshown]

theorem get?_recordOfRow (columns : List String) (row : Row) (key : String) :
    (ExportStage.recordOfRow columns row).get? key =
      if key ∈ columns then (row.get? key).map Cell.shown else none := by
  rw [← OrderedMap.get?_ofList_filterMap (fun k => (row.get? k).map Cell.shown)]
  simp only [Option.map_map]
  rfl

/-- **A cell can be seen** if and only if its key is a column. -/
theorem showsCell_iff {t : Table} {place : Nat} {row : Row} {key : String} {cell : Cell}
    (hrow : t.rows[place]? = some row) (hcell : row.get? key = some cell) :
    t.ShowsCell place row key cell ↔ key ∈ t.columns := by
  constructor
  · rintro ⟨⟨column, _, hcolumn, _⟩, _⟩
    rw [columns_ofTable] at hcolumn
    exact List.mem_of_getElem? hcolumn
  · intro hkey
    obtain ⟨column, hcolumn⟩ := List.getElem?_of_mem hkey
    obtain ⟨shown, hshown, hkind⟩ := cell_ofTable hrow hcell hcolumn
    refine ⟨⟨column, shown, by rwa [columns_ofTable], hshown, hkind⟩, ?_⟩
    rw [get?_recordOfRow, if_pos hkey, hcell, Option.map_some]

/-- A table with different columns shows all its cells if and only if it is covered. -/
theorem showsAllCells_iff {t : Table} (hnodup : t.columns.Nodup) :
    t.ShowsAllCells ↔ t.Covered := by
  constructor
  · intro hshows
    refine ⟨hnodup, fun row hrow key hkey => ?_⟩
    obtain ⟨place, hplace⟩ := List.getElem?_of_mem hrow
    obtain ⟨cell, hcell⟩ := Option.isSome_iff_exists.1 (OrderedMap.isSome_get?_iff.2 hkey)
    exact (showsCell_iff hplace hcell).1 (hshows place row key cell hplace hcell)
  · intro hcovered place row key cell hplace hcell
    refine (showsCell_iff hplace hcell).2 (hcovered.keys row (List.mem_of_getElem? hplace) key ?_)
    rw [← OrderedMap.isSome_get?_iff, hcell]
    rfl

end Table

/-! ## One transform -/

namespace Transform

variable {t : Transform} {columns : List String} {row : Row}

/-- A new name stands in the place of the old one. -/
theorem mem_set_idxOf {field target : String} (h : columns.Nodup) (hfield : field ∈ columns)
    {key : String} :
    key ∈ columns.set (columns.idxOf field) target ↔ key = target ∨ key ∈ columns ∧ key ≠ field := by
  have hplace : columns.idxOf field < columns.length := List.idxOf_lt_length_iff.2 hfield
  constructor
  · intro hkey
    obtain ⟨place, hlt, hget⟩ := List.mem_iff_getElem.1 hkey
    have hold : place < columns.length := List.length_set ▸ hlt
    rw [List.getElem_set] at hget
    split at hget
    · exact .inl hget.symm
    · next hne =>
      refine .inr ⟨hget ▸ List.getElem_mem hold, ?_⟩
      rintro rfl
      exact hne (hget ▸ h.idxOf_getElem place hold)
  · rintro (rfl | ⟨hkey, hne⟩)
    · exact List.mem_set hplace _
    · obtain ⟨place, hlt, hget⟩ := List.mem_iff_getElem.1 hkey
      have hother : columns.idxOf field ≠ place := by
        rintro rfl
        exact hne (hget ▸ List.getElem_idxOf hplace)
      refine List.mem_iff_getElem.2 ⟨place, by rwa [List.length_set], ?_⟩
      rw [List.getElem_set_of_ne hother, hget]

/-- The columns of a table with a new column, unless it is there. -/
def withColumn (columns : List String) (target : String) : List String :=
  if columns.contains target then columns else columns ++ [target]

theorem mem_withColumn {target key : String} :
    key ∈ withColumn columns target ↔ key = target ∨ key ∈ columns := by
  unfold withColumn
  split
  · next hcontains =>
    refine ⟨.inr, ?_⟩
    rintro (rfl | hkey)
    · simpa using hcontains
    · exact hkey
  · simp [or_comm]

theorem nodup_withColumn (h : columns.Nodup) (target : String) :
    (withColumn columns target).Nodup := by
  unfold withColumn
  split
  · exact h
  · next hnew => simpa [List.nodup_append, h] using fun a ha heq => hnew (by simpa using heq ▸ ha)

/-- **Columns that are different stay so.** -/
theorem nodup_columns (t : Transform) (h : columns.Nodup) : (t.columns columns).Nodup := by
  cases t with
  | rename field target =>
      simp only [Transform.columns]
      split
      · split
        · exact h.erase field
        · next hnew => exact h.set (by simpa using hnew)
      · exact h
  | extract _ _ target => exact nodup_withColumn h target
  | replace => exact h
  | merge _ target _ => exact nodup_withColumn h target
  | eval target _ => exact nodup_withColumn h target
  | remove field => exact h.erase field

/-- A renaming strikes the old name and lists the new one, if it is another. -/
theorem mem_columns_rename {field target key : String} (h : columns.Nodup)
    (hfield : field ∈ columns) : key ∈ (rename field target).columns columns ↔
      key ∈ columns ∧ key ≠ field ∨ key = target ∧ target ∉ columns := by
  have hcontains : columns.contains field = true := by simpa using hfield
  simp only [Transform.columns, hcontains, if_true]
  split
  · next htarget =>
    have htarget : target ∈ columns := by simpa using htarget
    rw [h.mem_erase_iff]
    simp [htarget, and_comm]
  · next htarget =>
    have htarget : target ∉ columns := by simpa using htarget
    rw [mem_set_idxOf h hfield]
    simp [htarget, or_comm]

theorem columns_rename_of_notMem {field target : String} (hfield : field ∉ columns) :
    (rename field target).columns columns = columns := by
  simp [Transform.columns, hfield]

/-! ### Rows under columns -/

/-- The transform renames a field of the row to itself. -/
def RenamesToItself (t : Transform) (row : Row) : Prop :=
  ∃ field, t = .rename field field ∧ field ∈ row.keys

theorem not_renamesToItself {t : Transform} (h : ∀ field, t ≠ .rename field field) :
    ¬ t.RenamesToItself row := by
  rintro ⟨field, heq, -⟩
  exact h field heq

variable (hrow : ∀ key ∈ row.keys, key ∈ columns)

include hrow

theorem keys_insert_listed {target : String} {cell : Cell} :
    ∀ key ∈ (row.insert target cell).keys, key ∈ withColumn columns target := by
  intro key hkey
  exact mem_withColumn.2 ((OrderedMap.mem_keys_insert.1 hkey).imp_right (hrow key))

theorem keys_listed {target : String} : ∀ key ∈ row.keys, key ∈ withColumn columns target :=
  fun key hkey => mem_withColumn.2 (.inr (hrow key hkey))

/-- A renamed cell is listed under its new name, if that is another one. -/
theorem keys_rename_listed_iff (h : columns.Nodup) (field target : String) :
    (∀ key ∈ ((rename field target).apply true row).keys,
      key ∈ (rename field target).columns columns) ↔
    ¬ (rename field target).RenamesToItself row := by
  cases hcell : row.get? field with
  | none =>
      have hfield : field ∉ row.keys := by
        rw [← OrderedMap.isSome_get?_iff, hcell]
        simp
      have hkept : (rename field target).apply true row = row := by simp [apply, hcell]
      rw [hkept]
      refine iff_of_true (fun key hkey => ?_) ?_
      · by_cases hlisted : field ∈ columns
        · refine (mem_columns_rename h hlisted).2 (.inl ⟨hrow key hkey, ?_⟩)
          rintro rfl
          exact hfield hkey
        · rw [columns_rename_of_notMem hlisted]
          exact hrow key hkey
      · rintro ⟨_, heq, hmem⟩
        cases heq
        exact hfield hmem
  | some cell =>
      have hfield : field ∈ row.keys := by
        rw [← OrderedMap.isSome_get?_iff, hcell]
        rfl
      have hmoved :
          (rename field target).apply true row = (row.erase field).insert target cell := by
        simp [apply, hcell]
      rw [hmoved]
      constructor
      · rintro hlisted ⟨_, heq, -⟩
        cases heq
        -- the cell is back under its name, but the name is no column any more
        have hcolumn := hlisted field (OrderedMap.mem_keys_insert.2 (.inl rfl))
        rcases (mem_columns_rename h (hrow field hfield)).1 hcolumn with ⟨-, hne⟩ | ⟨-, hnew⟩
        · exact hne rfl
        · exact hnew (hrow field hfield)
      · intro hother key hkey
        have hne : target ≠ field := by
          rintro rfl
          exact hother ⟨_, rfl, hfield⟩
        refine (mem_columns_rename h (hrow field hfield)).2 ?_
        rcases OrderedMap.mem_keys_insert.1 hkey with rfl | hold
        · by_cases hlisted : key ∈ columns
          · exact .inl ⟨hlisted, hne⟩
          · exact .inr ⟨rfl, hlisted⟩
        · obtain ⟨hkey, hne⟩ := OrderedMap.mem_keys_erase.1 hold
          exact .inl ⟨hrow key hkey, hne⟩

/-- **The keys of a transformed row are columns** of the transformed table, unless
the row has the field that is renamed to itself. -/
theorem keys_apply_listed_iff (h : columns.Nodup) (t : Transform) :
    (∀ key ∈ (t.apply true row).keys, key ∈ t.columns columns) ↔ ¬ t.RenamesToItself row := by
  cases t with
  | rename field target => exact keys_rename_listed_iff hrow h field target
  | extract field pattern target =>
      refine iff_of_true ?_ (not_renamesToItself (by simp))
      simp only [apply]
      split
      · exact keys_insert_listed hrow
      · exact keys_listed hrow
  | replace field pattern replacement =>
      refine iff_of_true ?_ (not_renamesToItself (by simp))
      simp only [apply, Transform.columns]
      split
      · next cell hcell =>
        intro key hkey
        rcases OrderedMap.mem_keys_insert.1 hkey with rfl | hold
        · exact hrow key (OrderedMap.isSome_get?_iff.1 (by rw [hcell]; rfl))
        · exact hrow key hold
      · exact hrow
  | merge sources target separator =>
      exact iff_of_true (keys_insert_listed hrow) (not_renamesToItself (by simp))
  | eval target expression =>
      exact iff_of_true (keys_insert_listed hrow) (not_renamesToItself (by simp))
  | remove field =>
      refine iff_of_true (fun key hkey => ?_) (not_renamesToItself (by simp))
      obtain ⟨hkey, hne⟩ := OrderedMap.mem_keys_erase.1 hkey
      exact h.mem_erase_iff.2 ⟨hne, hrow key hkey⟩

end Transform

/-! ## Chains -/

namespace RowStage

/-- The stage renames a field to itself that some row of the table has, which strikes
the column of the field and leaves its cells. -/
def StrikesColumn (s : RowStage) (t : Table) : Prop :=
  ∃ field, s = .transform (.rename field field) ∧ ∃ row ∈ t.rows, field ∈ row.keys

theorem nodup_onColumns (s : RowStage) {columns : List String} (h : columns.Nodup) :
    (s.onColumns columns).Nodup := by
  cases s with
  | filter f => exact h
  | transform t => exact t.nodup_columns h

/-- **A stage keeps a table covered** if and only if it strikes no column. -/
theorem covered_onTable_iff (s : RowStage) {t : Table} (h : t.Covered) :
    (s.onTable t).Covered ↔ ¬ s.StrikesColumn t := by
  cases s with
  | filter f =>
      refine iff_of_true ⟨h.nodup, fun row hrow => ?_⟩ (fun ⟨_, heq, _⟩ => nomatch heq)
      obtain ⟨old, hold, hkept⟩ := List.mem_filterMap.1 hrow
      simp only [onRow?] at hkept
      split at hkept
      · cases hkept
        exact h.keys row hold
      · cases hkept
  | transform u =>
      have hstrikes : (transform u).StrikesColumn t ↔ ∃ row ∈ t.rows, u.RenamesToItself row := by
        constructor
        · rintro ⟨field, heq, row, hrow, hmem⟩
          exact ⟨row, hrow, field, RowStage.transform.inj heq, hmem⟩
        · rintro ⟨row, hrow, field, rfl, hmem⟩
          exact ⟨field, rfl, row, hrow, hmem⟩
      rw [hstrikes]
      push Not
      constructor
      · intro hcovered row hrow
        refine (Transform.keys_apply_listed_iff (h.keys row hrow) h.nodup u).1 ?_
        exact hcovered.keys _ (List.mem_filterMap.2 ⟨row, hrow, rfl⟩)
      · intro hnone
        refine ⟨u.nodup_columns h.nodup, fun row hrow => ?_⟩
        obtain ⟨old, hold, heq⟩ := List.mem_filterMap.1 hrow
        cases heq
        exact (Transform.keys_apply_listed_iff (h.keys old hold) h.nodup u).2 (hnone old hold)

theorem tableAfter_take_succ {chain : List RowStage} {n : Nat} {s : RowStage}
    (h : chain[n]? = some s) (t : Table) :
    tableAfter (chain.take (n + 1)) t = s.onTable (tableAfter (chain.take n) t) := by
  rw [List.take_add_one, h, tableAfter, List.foldl_append]
  rfl

theorem nodup_columns_tableAfter (chain : List RowStage) {t : Table} (h : t.columns.Nodup) :
    (tableAfter chain t).columns.Nodup := by
  induction chain generalizing t with
  | nil => exact h
  | cons s rest ih => exact ih (s.nodup_onColumns h)

/-- All tables along a chain are covered if and only if no stage strikes a column. -/
theorem covered_tableAfter_iff (chain : List RowStage) {t : Table} (h : t.Covered) :
    (∀ n, (tableAfter (chain.take n) t).Covered) ↔
      ∀ (n : Nat) (s : RowStage), chain[n]? = some s →
        ¬ s.StrikesColumn (tableAfter (chain.take n) t) := by
  constructor
  · intro hcovered n s hs
    rw [← covered_onTable_iff s (hcovered n), ← tableAfter_take_succ hs]
    exact hcovered (n + 1)
  · intro hnone n
    induction n with
    | zero => exact h
    | succ n ih =>
        cases hs : chain[n]? with
        | none =>
            have hend : chain.take (n + 1) = chain.take n := by
              rw [List.take_add_one, hs, Option.toList_none, List.append_nil]
            rwa [hend]
        | some s =>
            rw [tableAfter_take_succ hs, covered_onTable_iff s ih]
            exact hnone n s hs

/-- **Cells stay in sight along a chain** of filters and transforms, up to the first
renaming of a field to itself.  Every part of a chain runs on a table that is covered
by its columns, and leaves columns that are different; all tables along the chain are
covered if and only if no stage strikes a column; and a table along it is covered if
and only if its frame and the records that are made of it show all its cells. -/
theorem covered_along_chain {t : Table} (h : t.Covered) (chain : List RowStage)
    (log : List LogLine) :
    (∀ n, Call.on (Stage.runAll ((chain.take n).map toStage) (.table t)) log =
        (.ok (.table (tableAfter (chain.take n) t)), log) ∧
      (tableAfter (chain.take n) t).columns.Nodup ∧
      ((tableAfter (chain.take n) t).Covered ↔ (tableAfter (chain.take n) t).ShowsAllCells)) ∧
    ((∀ n, (tableAfter (chain.take n) t).Covered) ↔
      ∀ (n : Nat) (s : RowStage), chain[n]? = some s →
        ¬ s.StrikesColumn (tableAfter (chain.take n) t)) := by
  refine ⟨fun n => ⟨?_, ?_, ?_⟩, covered_tableAfter_iff chain h⟩
  · rw [← List.append_nil ((chain.take n).map toStage), on_runAll_table]
    rfl
  · exact nodup_columns_tableAfter _ h.nodup
  · exact (Table.showsAllCells_iff (nodup_columns_tableAfter _ h.nodup)).symm

/-- A table of one visitor. -/
def visits : Table where
  columns := ["user", "count"]
  rows := [.ofList [("user", .text "ann"), ("count", .number (.integer 2))]]
  sourceHits := 2

theorem visits_covered : visits.Covered := by
  refine ⟨by decide, ?_⟩
  decide +kernel

/-- Two columns are renamed, the second one to itself: the first renaming keeps the
table covered, and the second one does not. -/
theorem covered_along_renamings :
    visits.Covered ∧
    (∀ n, (tableAfter ([transform (.rename "count" "hits")].take n) visits).Covered) ∧
    ¬ ∀ n, (tableAfter ([transform (.rename "count" "hits"),
      transform (.rename "user" "user")].take n) visits).Covered := by
  refine ⟨visits_covered, ?_, ?_⟩
  · rw [(covered_along_chain visits_covered _ []).2]
    rintro (_ | n) s hs ⟨field, heq, -⟩
    · cases hs
      obtain ⟨hold, hnew⟩ : "count" = field ∧ "hits" = field := by simpa using heq
      exact absurd (hold.trans hnew.symm) (by decide)
    · cases hs
  · rw [(covered_along_chain visits_covered _ []).2]
    intro hnone
    refine hnone 1 _ rfl ⟨"user", rfl, ?_⟩
    decide +kernel

end RowStage

end PipeQuery
