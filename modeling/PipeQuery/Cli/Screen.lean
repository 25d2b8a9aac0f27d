import PipeQuery.Frame
import PipeQuery.Fault

/-!
# The screen

What the commands print: lines of text and tables.
-/

namespace PipeQuery.Cli

/-- A title, columns, and rows of text. -/
structure ShownTable where
  title : String
  columns : List String
  rows : List (List String)
  deriving DecidableEq

/-- Something printed. -/
inductive Printed where
  | line (text : String)
  | table (t : ShownTable)
  deriving DecidableEq

/-- A column whose name comes again. -/
def repeatedColumn? : List String → Option String
  | [] => none
  | name :: rest => if rest.contains name then some name else repeatedColumn? rest

/-- The first rows of a frame, or all of them, as a table.  The rows of a frame
with the same column twice cannot be shown. -/
def tableOf (title : String) (frame : Frame) (limit : Option Nat) : Except Fault Printed :=
  let rows := match limit with
    | some n => frame.readRows.take n
    | none => frame.readRows
  match repeatedColumn? frame.columns, rows with
  | some name, _ :: _ => .error (.duplicateColumn name)
  | _, _ => .ok (.table ⟨title, frame.columns, rows.map fun row => row.map FrameCell.shown⟩)

/-- The column of labels of a chart. -/
def labelColumn : String := "label"

/-- The frame of labels and series. -/
def seriesFrame (labels : List String) (series : OrderedMap String (List Number)) :
    Except Fault Frame :=
  if series.contains labelColumn then .error (.duplicateColumn labelColumn)
  else .ok (.ofColumns labels.length
    ((labelColumn, labels.map FrameCell.text) ::
      series.entries.map fun e =>
        (e.1, settleColumn (e.2.map fun n => FrameCell.ofCell (.number n)))))

end PipeQuery.Cli
