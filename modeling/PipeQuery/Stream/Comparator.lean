import PipeQuery.Source.Basic
import PipeQuery.Fault

/-!
# Comparators

The orders that records are merged in.
-/

namespace PipeQuery

/-- How the first of two records stands to the second. -/
abbrev Comparator := Record → Record → Ordering

namespace Comparator

/-- The other way round. -/
def turn (descending : Bool) (o : Ordering) : Ordering := if descending then o.swap else o

/-- The better score first; with a NaN, neither is better. -/
def byScoreDescending : Comparator := fun a b =>
  if a.score.lt b.score then .gt else if b.score.lt a.score then .lt else .eq

/-- By instant; records without one come last either way. -/
def byTimestamp (descending : Bool) : Comparator := fun a b =>
  match a.millis?, b.millis? with
  | some x, some y => turn descending (compare x y)
  | none, some _ => .gt
  | some _, none => .lt
  | none, none => .eq

/-- By the text of a field; records without it come first in ascending order
and last in descending order. -/
def byField (name : String) (descending : Bool) : Comparator := fun a b =>
  turn descending (match a.get? name, b.get? name with
    | some x, some y => compare x y
    | none, some _ => .lt
    | some _, none => .gt
    | none, none => .eq)

/-- The comparator of an order. -/
def ofOrder (order : SortOrder) : Comparator :=
  match order.key with
  | .score =>
    if order.descending then byScoreDescending else fun a b => byScoreDescending b a
  | .timestamp => byTimestamp order.descending
  | .field name => byField name order.descending

/-- Sorts records; equal ones keep their order. -/
def sort (comparator : Comparator) (records : List Record) : List Record :=
  records.mergeSort fun a b => comparator a b != .gt

end Comparator

/-- How the records of several sources are put together: one source after the
other, or merged in an order. -/
inductive MergeOrder where
  | sequential
  | score
  | timestamp (descending : Bool)
  deriving DecidableEq

namespace MergeOrder

/-- The merge order of a name. -/
def named (name : String) : Except Fault MergeOrder :=
  match name with
  | "score" => .ok score
  | "timestamp_asc" => .ok (timestamp false)
  | "timestamp_desc" => .ok (timestamp true)
  | "sequential" => .ok sequential
  | _ => .error (.mergeOrder name)

/-- The order that the hits of each source have to come in. -/
def sortOrder? : MergeOrder → Option SortOrder
  | sequential => none
  | score => some ⟨.score, true⟩
  | timestamp descending => some ⟨.timestamp, descending⟩

/-- The order of records in a merge, if it has one. -/
def comparator? (m : MergeOrder) : Option Comparator := m.sortOrder?.map Comparator.ofOrder

end MergeOrder

end PipeQuery
