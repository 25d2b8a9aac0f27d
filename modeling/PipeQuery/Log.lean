import PipeQuery.OrderedMap
import PipeQuery.Text.Case

/-!
# Logging

Lines are values: a level, the name of the logger and a message.  Every logger
has a level and keeps back the lines below it; a level set for all loggers
also holds for those that are made later.
-/

namespace PipeQuery

/-- The levels at which lines are written. -/
inductive LogLevel where
  | warning
  | error
  deriving DecidableEq

namespace LogLevel

/-- The name of the level. -/
def name : LogLevel → String
  | warning => "WARNING"
  | error => "ERROR"

/-- How severe the level is. -/
def rank : LogLevel → Int
  | warning => 30
  | error => 40

end LogLevel

/-- One line of the log. -/
structure LogLine where
  level : LogLevel
  /-- The part of the program that writes it. -/
  logger : String
  message : String
  deriving DecidableEq

/-- The full name of a logger. -/
def loggerName (logger : String) : String := "logpipe." ++ logger

/-- The named levels and their ranks. -/
def levelRanks : List (String × Int) :=
  [("CRITICAL", 50), ("FATAL", 50), ("ERROR", 40), ("WARN", 30), ("WARNING", 30), ("INFO", 20),
    ("DEBUG", 10), ("NOTSET", 0)]

/-- The rank of a level name in any case. -/
def levelRank? (name : String) : Option Int := levelRanks.lookup (Text.upper name)

/-- The loggers made so far with their levels, and the level set for all. -/
structure Loggers where
  levels : OrderedMap String Int
  forAll : Option Int

namespace Loggers

/-- The level of loggers that nothing else was said about. -/
def defaultRank : Int := 20

/-- The loggers that are there from the start. -/
def initial : Loggers :=
  ⟨.ofList (["Retrieval", "MemoryIndex", "Streaming", "Stages", "TimeChartStage", "CLI"].map
    fun name => (name, defaultRank)), none⟩

/-- The logger of a name, made with the given level if it is new and no level
is set for all. -/
def logger (l : Loggers) (name : String) (rank : Int) : Int × Loggers :=
  match l.levels.get? name with
  | some r => (r, l)
  | none =>
    let r := l.forAll.getD rank
    (r, { l with levels := l.levels.insert name r })

/-- Sets the level of all loggers, now and later. -/
def setAll (l : Loggers) (rank : Int) : Loggers :=
  { levels := l.levels.mapValues fun _ => rank, forAll := some rank }

/-- A line that is not kept back by its logger. -/
def passes (l : Loggers) (line : LogLine) : Bool :=
  ((l.levels.get? line.logger).getD (l.forAll.getD defaultRank)) ≤ line.level.rank

end Loggers

end PipeQuery
