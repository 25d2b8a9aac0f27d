import PipeQuery.Fault
import PipeQuery.Log

/-!
# Logged computations

A computation that may fail and writes lines to a log; what was written before
a failure stays written.
-/

namespace PipeQuery

/-- May fail, and writes a log. -/
abbrev Logged (α : Type) := ExceptT Fault (StateM (List LogLine)) α

namespace Logged

/-- Writes a line. -/
def write (level : LogLevel) (logger message : String) : Logged Unit :=
  modify fun lines => lines ++ [⟨level, logger, message⟩]

/-- Logs a warning. -/
def warn (logger message : String) : Logged Unit := write .warning logger message

/-- Takes over a result that was found without writing. -/
def ofExcept {α : Type} : Except Fault α → Logged α
  | .ok a => pure a
  | .error fault => throw fault

/-- The outcome and the lines written. -/
def outcome {α : Type} (x : Logged α) : Except Fault α × List LogLine := (ExceptT.run x).run []

end Logged

end PipeQuery
