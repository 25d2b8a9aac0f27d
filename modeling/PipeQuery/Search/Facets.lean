import PipeQuery.Source.Basic
import PipeQuery.Number.Shown

/-!
# Facets

Counts of field values are added up over sources, and values that are numbers
can be counted by ranges.
-/

namespace PipeQuery

namespace Number

/-- The number in six significant digits.  This is no text of a whole number that
does not fit binary64: such a number cannot be written in this way. -/
def sixDigits (n : Number) : String := n.toBinary64.sixDigits

end Number

namespace Facets

/-- Adds to the count of a value. -/
def addCount (counts : OrderedMap String Int) (value : String) (n : Int) : OrderedMap String Int :=
  counts.update value 0 (· + n)

/-- Adds counts, one after the other. -/
def addCounts (counts more : OrderedMap String Int) : OrderedMap String Int :=
  more.entries.foldl (fun counts e => addCount counts e.1 e.2) counts

/-- Adds the counts of all fields. -/
def merge (facets more : Facets) : Facets :=
  more.entries.foldl (fun facets e => facets.update e.1 .empty (addCounts · e.2)) facets

/-! ## Ranges -/

/-- The characters that the number in a value is made of. -/
def isBoundChar (c : Char) : Bool := c.isDigit || c == '.' || c == '-'

/-- The number in a value. -/
def valueNumber? (value : String) : Option Binary64 :=
  readBinary64? (value.toList.filter isBoundChar)

/-- The bounds in ascending order. -/
def sortBounds (bounds : List Number) : List Number := bounds.mergeSort fun a b => !b.lt a

/-- The label of the range that a number lies in, if it is at or above the
first of the ascending bounds. -/
def rangeLabel? (x : Number) : List Number → Option String
  | [] => none
  | [low] => if low.le x then some (low.sixDigits ++ "+") else none
  | low :: high :: rest =>
    if low.le x && x.lt high then some (low.sixDigits ++ "-" ++ high.sixDigits)
    else rangeLabel? x (high :: rest)

/-- The label of a value: the range that the number in it lies in.  What holds
no number labels itself. -/
def bucketLabel (value : String) (bounds : List Number) : String :=
  match sortBounds bounds with
  | [] => value
  | least :: rest =>
    match valueNumber? value with
    | none => value
    | some x => (rangeLabel? (.binary x) (least :: rest)).getD ("<" ++ least.sixDigits)

/-- Counts ranges in place of values. -/
def bucketCounts (bounds : List Number) (counts : OrderedMap String Int) :
    OrderedMap String Int :=
  counts.entries.foldl (fun labelled e => addCount labelled (bucketLabel e.1 bounds) e.2) .empty

/-- Counts ranges for the fields that have bounds. -/
def bucketed (facets : Facets) (buckets : OrderedMap String (List Number)) : Facets :=
  .ofList (facets.entries.map fun e =>
    match buckets.get? e.1 with
    | none => e
    | some bounds => (e.1, bucketCounts bounds e.2))

end Facets

end PipeQuery
