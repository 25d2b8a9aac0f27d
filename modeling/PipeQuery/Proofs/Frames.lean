import PipeQuery.Frame.Library
import Mathlib.Data.List.Basic

/-!
# Frames as a library

The frames of the program are rows of cells under a list of columns.  They keep the
laws that a library of frames has (`FrameLibrary.Lawful`), and keep them for cells of
every kind.
-/

namespace PipeQuery

/-- A name is looked up among names with their values. -/
theorem lookup_zip_map {α β : Type} [DecidableEq α] (f : α → β) (x : α) (xs : List α) :
    (xs.zip (xs.map f)).lookup x = if x ∈ xs then some (f x) else none := by
  induction xs with
  | nil => simp
  | cons y xs ih =>
      rw [List.map_cons, List.zip_cons_cons, List.lookup_cons, ih]
      by_cases hxy : x = y
      · simp [hxy]
      · have hbeq : (x == y) = false := by simpa using hxy
        simp [hbeq, hxy]

theorem lookup_zip_of_notMem {α β : Type} [DecidableEq α] {x : α} {xs : List α} (h : x ∉ xs)
    (ys : List β) : (xs.zip ys).lookup x = none := by
  rw [List.lookup_eq_none_iff]
  rintro ⟨a, b⟩ hmem
  have ha : a ∈ xs := (List.of_mem_zip hmem).1
  exact bne_iff_ne.2 fun hx : x = a => h (hx ▸ ha)

namespace Frame

variable {f : Frame} {row : List FrameCell} {columns : List String} {column : String}

theorem cell?_of_notMem (h : column ∉ f.columns) (row : List FrameCell) :
    f.cell? row column = none := lookup_zip_of_notMem h row

/-- A cell of a row that has one for each column. -/
theorem cell?_map (h : f.columns = columns) (cellOf : String → FrameCell) :
    f.cell? (columns.map cellOf) column =
      if column ∈ columns then some (cellOf column) else none := by
  rw [cell?, h, lookup_zip_map]

/-- A row that is placed under other columns keeps the cells of those that it had. -/
theorem getD_cell?_placeRow {g : Frame} (h : g.columns = columns) (hcolumn : column ∈ columns)
    (f : Frame) (row : List FrameCell) :
    (g.cell? (placeRow columns f row) column).getD .empty =
      if column ∈ f.columns then (f.cell? row column).getD .empty else .empty := by
  rw [placeRow, cell?_map h, if_pos hcolumn, Option.getD_some]
  split
  · rfl
  · next hnew =>
    rw [cell?_of_notMem hnew]
    rfl

/-- The cell of a row that there is. -/
theorem cell_eq {place : Nat} (hrow : f.rows[place]? = some row) (column : String) :
    FrameLibrary.cell f place column = (f.cell? row column).getD .empty := by
  show ((f.rows[place]?).bind (f.cell? · column)).getD .empty = _
  rw [hrow, Option.bind_some]

/-- Rows that are placed under other columns keep the cells of those that they had. -/
theorem cell_placed {g : Frame} {place after : Nat} (hplace : place < f.rows.length)
    (hplaced : g.rows[after]? = (f.rows.map (placeRow g.columns f))[place]?)
    (hcolumn : column ∈ g.columns) :
    FrameLibrary.cell g after column =
      if column ∈ f.columns then FrameLibrary.cell f place column else .empty := by
  have hrow : f.rows[place]? = some f.rows[place] := List.getElem?_eq_getElem hplace
  rw [List.getElem?_map, hrow, Option.map_some] at hplaced
  rw [cell_eq hplaced, cell_eq hrow, getD_cell?_placeRow rfl hcolumn]

instance : FrameLibrary.Lawful Frame where
  columns_ofRows _ := rfl
  rowCount_ofRows _ := List.length_map _
  cell_ofRows {rows place row column} hrow hcolumn _ := by
    have hplaced : (ofRows rows).rows[place]? =
        some ((ofRows rows).columns.map fun column => (row.get? column).getD .empty) := by
      show (rows.map _)[place]? = _
      rw [List.getElem?_map, hrow]
      rfl
    have hlisted : column ∈ (ofRows rows).columns := hcolumn
    exact (cell_eq hplaced column).trans (by rw [cell?_map rfl, if_pos hlisted]; rfl)
  columns_select _ _ := rfl
  rowCount_select _ _ := List.length_map _
  cell_select {names} _ {f place column} hplace hcolumn _ :=
    cell_placed (g := select names f) hplace rfl hcolumn
  columns_append {f g} _ _ := by
    show f.columns ++ g.columns.filter _ =
      f.columns ++ g.columns.filter fun column => column ∉ f.columns
    refine congrArg _ (List.filter_congr fun column _ => ?_)
    simp
  rowCount_append {f g} _ _ := by
    show (f.rows.map _ ++ g.rows.map _).length = f.rows.length + g.rows.length
    rw [List.length_append, List.length_map, List.length_map]
  cell_append_left {f g} _ _ {place column} hplace hcolumn _ := by
    refine cell_placed (g := append f g) hplace ?_ hcolumn
    show (f.rows.map _ ++ g.rows.map _)[place]? = _
    rw [List.getElem?_append_left (by rwa [List.length_map])]
    rfl
  cell_append_right {f g} _ _ {place column} hplace hcolumn _ := by
    refine cell_placed (g := append f g) hplace ?_ hcolumn
    show (f.rows.map _ ++ g.rows.map _)[f.rows.length + place]? = _
    rw [List.getElem?_append_right (by simp), List.length_map, Nat.add_sub_cancel_left]
    rfl

end Frame

end PipeQuery
