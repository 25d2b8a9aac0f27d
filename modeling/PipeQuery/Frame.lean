import PipeQuery.Result

/-!
# Frames

A frame is a table with a cell at every crossing of a row and a column; a cell
may be empty.  A column of numbers holds whole numbers only if all its cells
do: with other numbers or empty cells among them, they are binary64 numbers.
-/

namespace PipeQuery

/-- A value in a frame. -/
inductive FrameCell where
  | empty
  | text (s : String)
  | number (n : Number)
  | time (t : Timestamp)
  deriving DecidableEq

/-- Columns, and rows with a cell for each of them. -/
structure Frame where
  columns : List String
  rows : List (List FrameCell)
  deriving DecidableEq

namespace FrameCell

/-- The cell of a value; a NaN leaves it empty. -/
def ofCell : Cell → FrameCell
  | .text s => text s
  | .number (.integer n) => number (.integer n)
  | .number (.binary x) => if x.isNaN then empty else number (.binary x)

/-- The cell of a text, if there is one. -/
def ofText? : Option String → FrameCell
  | none => empty
  | some s => text s

/-- The cell of a time, if there is one. -/
def ofTime? : Option Timestamp → FrameCell
  | none => empty
  | some t => time t

/-- The text of a cell; that of an empty one is empty. -/
def shown : FrameCell → String
  | empty => ""
  | text s => s
  | number n => n.shown
  | time t => t.shownSpaced

/-- A whole number becomes a binary64 number. -/
def toBinary : FrameCell → FrameCell
  | number n => number (.binary n.toBinary64)
  | cell => cell

/-- A number or nothing. -/
def isNumeric : FrameCell → Bool
  | number _ | empty => true
  | _ => false

/-- A number of either kind. -/
def isNumber : FrameCell → Bool
  | number _ => true
  | _ => false

/-- The whole number in a cell. -/
def integer? : FrameCell → Option Int
  | number (.integer n) => some n
  | _ => none

end FrameCell

/-! ## Columns -/

/-- What the cells of a column have in common. -/
inductive ColumnKind where
  /-- Whole numbers that fit 64 bits with a sign. -/
  | signed
  /-- Whole numbers that fit 64 bits without a sign. -/
  | unsigned
  | binary
  /-- Cells of any kind. -/
  | mixed
  deriving DecidableEq

/-- Beyond the whole numbers of 64 bits, with or without a sign. -/
def exceedsWords (n : Int) : Bool := n < -9223372036854775808 || 18446744073709551616 ≤ n

/-- A whole number that needs all 64 bits. -/
def needsUnsigned (n : Int) : Bool := 9223372036854775808 ≤ n

/-- The kind of a column. -/
def ColumnKind.of (cells : List FrameCell) : ColumnKind :=
  let integers := cells.filterMap FrameCell.integer?
  if !cells.all FrameCell.isNumeric || cells.all (· == .empty) || integers.any exceedsWords
      || (integers.any needsUnsigned && integers.any (· < 0)) then mixed
  else if integers.length < cells.length then binary
  else if integers.any needsUnsigned then unsigned
  else signed

/-- The cells of a column as its kind has them. -/
def settleColumn (cells : List FrameCell) : List FrameCell :=
  if ColumnKind.of cells = .binary then cells.map FrameCell.toBinary else cells

namespace Frame

/-- No columns and no rows. -/
def empty : Frame := ⟨[], []⟩

/-- The frame of some columns with their cells. -/
def ofColumns (rowCount : Nat) (columns : List (String × List FrameCell)) : Frame :=
  ⟨columns.map Prod.fst,
    (List.range rowCount).map fun row => columns.map fun c => c.2[row]?.getD .empty⟩

/-- The cells of a column by its place. -/
def column (f : Frame) (place : Nat) : List FrameCell :=
  f.rows.map fun row => row[place]?.getD .empty

/-- The columns by place. -/
def columnCells (f : Frame) : List (List FrameCell) :=
  (List.range f.columns.length).map f.column

/-- The frame of a table: its listed columns and nothing else. -/
def ofTable (t : Table) : Frame :=
  ofColumns t.rows.length (t.columns.map fun column =>
    (column, settleColumn (t.rows.map fun row =>
      ((row.get? column).map FrameCell.ofCell).getD .empty)))

/-! ## Cells in columns -/

/-- The frame of some rows, with their columns in the order of first appearance. -/
def ofRows (rows : List (OrderedMap String FrameCell)) : Frame :=
  let columns := firstOccurrences (rows.flatMap OrderedMap.keys)
  ⟨columns, rows.map fun row => columns.map fun column => (row.get? column).getD .empty⟩

/-- The cell of a row in a column. -/
def cell? (f : Frame) (row : List FrameCell) (column : String) : Option FrameCell :=
  (f.columns.zip row).lookup column

/-- The row of a frame with other columns. -/
def placeRow (columns : List String) (f : Frame) (row : List FrameCell) : List FrameCell :=
  columns.map fun column => (f.cell? row column).getD .empty

/-- The frame with exactly these columns. -/
def select (names : List String) (f : Frame) : Frame := ⟨names, f.rows.map (placeRow names f)⟩

/-- The rows of two frames under the columns of both, new ones last. -/
def append (f g : Frame) : Frame :=
  let columns := f.columns ++ g.columns.filter fun c => !f.columns.contains c
  ⟨columns, f.rows.map (placeRow columns f) ++ g.rows.map (placeRow columns g)⟩

/-! ## Rows -/

/-- The rows as they are read one by one: where all columns are numbers, one
column of binary64 numbers makes binary64 numbers of all. -/
def readRows (f : Frame) : List (List FrameCell) :=
  let kinds := f.columnCells.map ColumnKind.of
  if kinds.contains .mixed then f.rows
  else if kinds.contains .binary || (kinds.contains .signed && kinds.contains .unsigned) then
    f.rows.map fun row => row.map FrameCell.toBinary
  else f.rows

end Frame

/-- The cells of a record by column: its own parts, and its fields, which take
their place where they have the same name. -/
def Record.cells (r : Record) : OrderedMap String FrameCell :=
  r.fields.entries.foldl (fun cells e => cells.insert e.1 (.text e.2))
    (.ofList [("timestamp", .ofTime? r.timestamp), ("source", .ofText? r.source),
      ("raw_text", .text r.raw)])

end PipeQuery
