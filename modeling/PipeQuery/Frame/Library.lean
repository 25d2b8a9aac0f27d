import PipeQuery.Frame

/-!
# Libraries of frames

The frames of a sink are those of a library, which the program does not define.
What it asks of the library is in `FrameLibrary`, and what it may rely on in
`FrameLibrary.Lawful`.
-/

namespace PipeQuery

/-- A library whose frames are of a type. -/
class FrameLibrary (F : Type) where
  /-- The frame of some rows, each given by its cells in their columns. -/
  ofRows : List (OrderedMap String FrameCell) → F
  /-- The frame with exactly these columns. -/
  select : List String → F → F
  /-- The rows of both frames, counted anew. -/
  append : F → F → F
  columns : F → List String
  rowCount : F → Nat
  /-- What stands in a row, given by its place, in a column. -/
  cell : F → Nat → String → FrameCell

namespace FrameLibrary

/-- What is relied on, where no frame has two columns of one name.  Of numbers it
says nothing, because a column may be settled on numbers of one kind. -/
class Lawful (F : Type) [FrameLibrary F] : Prop where
  /-- The columns of rows are in the order of their first appearance. -/
  columns_ofRows (rows : List (OrderedMap String FrameCell)) :
    columns (ofRows rows : F) = firstOccurrences (rows.flatMap OrderedMap.keys)
  /-- No row is left out. -/
  rowCount_ofRows (rows : List (OrderedMap String FrameCell)) :
    rowCount (ofRows rows : F) = rows.length
  /-- The cells of a row stand in their columns; where the row has none, an empty one
  does. -/
  cell_ofRows {rows : List (OrderedMap String FrameCell)} {place : Nat}
    {row : OrderedMap String FrameCell} {column : String} (hrow : rows[place]? = some row)
    (hcolumn : column ∈ columns (ofRows rows : F))
    (hcell : ((row.get? column).getD .empty).isNumber = false) :
    cell (ofRows rows : F) place column = (row.get? column).getD .empty
  /-- The columns that are selected, and no others, are in the order in which they are
  selected. -/
  columns_select {names : List String} (hnames : names.Nodup) (f : F) :
    columns (select names f) = names
  /-- No row is left out. -/
  rowCount_select (names : List String) (f : F) : rowCount (select names f) = rowCount f
  /-- A column that is selected keeps its cells; those of a new one are empty. -/
  cell_select {names : List String} (hnames : names.Nodup) {f : F} {place : Nat} {column : String}
    (hplace : place < rowCount f) (hcolumn : column ∈ names)
    (hcell : column ∈ columns f → (cell f place column).isNumber = false) :
    cell (select names f) place column =
      if column ∈ columns f then cell f place column else .empty
  /-- New columns stand behind the others. -/
  columns_append {f g : F} (hf : (columns f).Nodup) (hg : (columns g).Nodup) :
    columns (append f g) = columns f ++ (columns g).filter fun column => column ∉ columns f
  /-- The rows of both are there. -/
  rowCount_append {f g : F} (hf : (columns f).Nodup) (hg : (columns g).Nodup) :
    rowCount (append f g) = rowCount f + rowCount g
  /-- The rows of the first frame keep their cells, and have empty ones in new columns. -/
  cell_append_left {f g : F} (hf : (columns f).Nodup) (hg : (columns g).Nodup) {place : Nat}
    {column : String} (hplace : place < rowCount f) (hcolumn : column ∈ columns (append f g))
    (hcell : column ∈ columns f → (cell f place column).isNumber = false) :
    cell (append f g) place column = if column ∈ columns f then cell f place column else .empty
  /-- So do the rows of the second one, which stand behind them. -/
  cell_append_right {f g : F} (hf : (columns f).Nodup) (hg : (columns g).Nodup) {place : Nat}
    {column : String} (hplace : place < rowCount g) (hcolumn : column ∈ columns (append f g))
    (hcell : column ∈ columns g → (cell g place column).isNumber = false) :
    cell (append f g) (rowCount f + place) column =
      if column ∈ columns g then cell g place column else .empty

end FrameLibrary

/-- The frame of an export, with the columns asked for if there are any. -/
def Export.toFrame {F : Type} [FrameLibrary F] (e : Export) : F :=
  let frame : F := FrameLibrary.ofRows (e.records.map Record.cells)
  match e.fields with
  | some (name :: names) => FrameLibrary.select (name :: names) frame
  | _ => frame

/-- A library of its own. -/
instance : FrameLibrary Frame where
  ofRows := .ofRows
  select := .select
  append := .append
  columns := Frame.columns
  rowCount f := f.rows.length
  cell f place column := ((f.rows[place]?).bind (f.cell? · column)).getD .empty

end PipeQuery
