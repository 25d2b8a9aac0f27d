import PipeQuery.Record

/-!
# Sources

What is asked of a source of records and what it answers with: hits, ranges of
time, orders, and counts of field values.
-/

namespace PipeQuery

/-- A record that was found, by its number in its source, and how well it
matched. -/
structure Hit where
  number : Int
  score : Binary64
  deriving DecidableEq

/-- Inclusive bounds on instants in milliseconds; either side may be open. -/
structure TimeRange where
  start : Option Int
  stop : Option Int
  deriving DecidableEq

/-- The range holds an instant.  A missing instant is only in the range that is
open on both sides. -/
def TimeRange.holds (range : TimeRange) : Option Int → Bool
  | none => range.start.isNone && range.stop.isNone
  | some millis => range.start.all (· ≤ millis) && range.stop.all (millis ≤ ·)

/-- What records are ordered by. -/
inductive SortKey where
  | score
  | timestamp
  | field (name : String)
  deriving DecidableEq

/-- An order of records. -/
structure SortOrder where
  key : SortKey
  descending : Bool
  deriving DecidableEq

/-- The name of the order by score. -/
def scoreName : String := "score"

/-- The name of the order by instant. -/
def timestampName : String := "timestamp"

/-- The key of a name. -/
def SortKey.named (name : String) : SortKey :=
  if name == scoreName then .score
  else if name == timestampName then .timestamp
  else .field name

/-- Sources can order their hits themselves by this key. -/
def SortKey.isPushable : SortKey → Bool
  | score | timestamp => true
  | field _ => false

/-- For each field, how often each of its values occurs. -/
abbrev Facets := OrderedMap String (OrderedMap String Int)

end PipeQuery
