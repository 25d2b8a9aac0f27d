import PipeQuery.Fault

/-!
# Windows

Parts of lists by position.  A negative position counts from the end, and
positions beyond the list stand for its end.
-/

namespace PipeQuery

/-- The place in a list of `length` items that a position stands for. -/
def placeOf (length : Nat) (position : Int) : Nat :=
  if position < 0 then ((length : Int) + position).toNat else min position.toNat length

/-- The items before a position. -/
def takeTo {α : Type} (stop : Int) (items : List α) : List α :=
  items.take (placeOf items.length stop)

/-- The items from one position to another. -/
def between {α : Type} (start stop : Int) (items : List α) : List α :=
  (takeTo stop items).drop (placeOf items.length start)

/-- The item at a position. -/
def itemAt? {α : Type} (items : List α) (position : Int) : Option α :=
  if position < 0 then
    if (items.length : Int) + position < 0 then none
    else items[((items.length : Int) + position).toNat]?
  else items[position.toNat]?

/-- The greatest number of items that is counted to. -/
def countLimit : Int := 9223372036854775807

/-- A window from `start` up to `stop` that a stream can be asked for. -/
def windowOf (start stop : Int) : Except Fault (Nat × Nat) :=
  if stop = -1 ∨ countLimit < stop ∨ stop < -countLimit - 1 then .error .windowEnd
  else if start < 0 ∨ countLimit < start ∨ stop < 0 then .error .windowBounds
  else .ok (start.toNat, stop.toNat)

end PipeQuery
