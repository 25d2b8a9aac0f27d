import PipeQuery.Frame.Library

/-!
# Sinks

A sink takes exports and keeps a table for each target.  An export is added to
the table of its target, or takes its place.
-/

namespace PipeQuery

/-- What came of a delivery. -/
structure ExportSummary where
  target : String
  rowsWritten : Nat
  totalRows : Nat
  columns : List String
  appended : Bool
  deriving DecidableEq

/-- The tables by target. -/
structure FrameSink (F : Type) where
  tables : OrderedMap String F

namespace FrameSink

variable {F : Type}

/-- A sink that has taken nothing. -/
def empty : FrameSink F := ⟨.empty⟩

variable [FrameLibrary F]

/-- The table that the target of an export has after its delivery. -/
def tableAfter (sink : FrameSink F) (e : Export) : F :=
  match sink.tables.get? e.target with
  | some table => if e.append then FrameLibrary.append table e.toFrame else e.toFrame
  | none => e.toFrame

/-- Takes an export. -/
def deliver (sink : FrameSink F) (e : Export) : ExportSummary × FrameSink F :=
  let table := sink.tableAfter e
  (⟨e.target, e.records.length, FrameLibrary.rowCount table, FrameLibrary.columns table,
      e.append && (sink.tables.get? e.target).isSome⟩,
    ⟨sink.tables.insert e.target table⟩)

end FrameSink

end PipeQuery
