import PipeQuery.OrderedMap

/-!
# Queries

A query is a base filter, which selects records, and stages that work on them
one after the other.  A stage is written as a command with arguments and
parameters; what they mean is settled when it is built.
-/

namespace PipeQuery

/-- A command with what is said to it. -/
structure StageSpec where
  command : String
  args : List String
  params : OrderedMap String String
  deriving DecidableEq

/-- A base filter and stages. -/
structure Query where
  base : String
  stages : List StageSpec
  deriving DecidableEq

/-- The base filter that selects every record. -/
def matchAll : String := "*"

namespace Query

/-- Whether there is a stage behind the filter. -/
def hasStages (q : Query) : Bool := !q.stages.isEmpty

end Query

end PipeQuery
