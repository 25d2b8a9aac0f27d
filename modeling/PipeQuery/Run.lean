import PipeQuery.Logged

/-!
# Runs

A run works on something outside that it can only call (`Call`), may fail at
every step, and writes a log.  What a step changed before it failed stays
changed.
-/

namespace PipeQuery

/-- A call that changes a state and answers or fails. -/
abbrev Call (σ α : Type) := ExceptT Fault (StateM σ) α

/-- A state, and the lines written while working on it. -/
structure World (σ : Type) where
  state : σ
  log : List LogLine

/-- A computation in a world. -/
abbrev Run (σ α : Type) := Call (World σ) α

namespace Run

variable {σ τ α β : Type}

/-- Writes a line. -/
def write (level : LogLevel) (logger message : String) : Run σ Unit :=
  modify fun w => { w with log := w.log ++ [⟨level, logger, message⟩] }

/-- Logs a warning. -/
def warn (logger message : String) : Run σ Unit := write .warning logger message

/-- A call in a part of the state. -/
def inPart (get : σ → τ) (set : τ → σ → σ) (call : Call τ α) : Run σ α := fun w =>
  match (ExceptT.run call).run (get w.state) with
  | (outcome, part) => (outcome, { w with state := set part w.state })

/-- A call in the whole state. -/
def onState (call : Call σ α) : Run σ α := inPart id (fun s _ => s) call

/-- A computation that only writes to the log. -/
def ofLogged (x : Logged α) : Run σ α := fun w =>
  match (ExceptT.run x).run w.log with
  | (outcome, log) => (outcome, { w with log := log })

/-- A result or a fault, without any effect. -/
def ofExcept (x : Except Fault α) : Run σ α := ofLogged (Logged.ofExcept x)

/-- The outcome as a value: nothing is thrown. -/
def attempt (x : Run σ α) : StateM (World σ) (Except Fault α) := ExceptT.run x

/-- Runs `x` and then `last`, whether `x` failed or not.  A fault of `last`
takes the place of what `x` came to. -/
def andLast (x : Run σ α) (last : Run σ Unit) : Run σ α := fun w =>
  match attempt x w with
  | (outcome, w) =>
    match attempt last w with
    | (.ok _, w) => (outcome, w)
    | (.error fault, w) => (.error fault, w)

/-- Runs `x` and lets `change` reword its fault. -/
def mapFault (change : Fault → Fault) (x : Run σ α) : Run σ α := fun w =>
  match attempt x w with
  | (.ok a, w) => (.ok a, w)
  | (.error fault, w) => (.error (change fault), w)

end Run

end PipeQuery
