import PipeQuery.Source.MemoryIndex

/-!
# Disturbed sources

An adapter whose readers fail as planned, and readers that fail after some
time, to see what becomes of faults.
-/

namespace PipeQuery

/-- What goes wrong with a source: the fault of each operation, and the number
of records that are left out of what is fetched. -/
structure Disturbance where
  count : Option Fault
  search : Option Fault
  fetch : Option Fault
  facetCounts : Option Fault
  shortBy : Nat

/-- Fails with a fault, if there is one. -/
def Disturbance.before {σ α : Type} (fault : Option Fault) (call : Call σ α) : Call σ α :=
  match fault with
  | some fault => throw fault
  | none => call

namespace MemoryReader

/-- What goes wrong with the source of a reader. -/
def disturbance? (plan : OrderedMap String Disturbance) (reader : MemoryReader) :
    Option Disturbance :=
  plan.get? reader.source

end MemoryReader

/-- The index as an adapter whose readers fail as planned. -/
def MemoryIndex.disturbedAdapter (plan : OrderedMap String Disturbance) :
    Adapter MemoryIndex MemoryReader :=
  let fault (choose : Disturbance → Option Fault) (reader : MemoryReader) :=
    (reader.disturbance? plan).bind choose
  { MemoryIndex.adapter with
    count := fun reader query range =>
      Disturbance.before (fault Disturbance.count reader)
        (MemoryIndex.adapter.count reader query range)
    search := fun reader query range limit order =>
      Disturbance.before (fault Disturbance.search reader)
        (MemoryIndex.adapter.search reader query range limit order)
    fetch := fun reader numbers =>
      Disturbance.before (fault Disturbance.fetch reader) do
        let records ← MemoryIndex.adapter.fetch reader numbers
        let shortBy := ((reader.disturbance? plan).map Disturbance.shortBy).getD 0
        return records.take (records.length - shortBy)
    facetCounts := fun reader query range fields =>
      Disturbance.before (fault Disturbance.facetCounts reader)
        (MemoryIndex.adapter.facetCounts reader query range fields) }

/-- Records that can be fetched a number of times. -/
structure FailingReader where
  records : List Record
  /-- The number of fetches before it fails; it never does if negative. -/
  failAfter : Int
  /-- The number of records that are left out of what is fetched. -/
  shortBy : Nat
  /-- What it fails with. -/
  fault : Fault

namespace FailingReader

/-- The records of some numbers. -/
def recordsOf (reader : FailingReader) (numbers : List Int) : Except Fault (List Record) :=
  numbers.mapM fun number =>
    match itemAt? reader.records number with
    | some record => .ok record
    | none => .error .beyondEnd

/-- Fetches records through the reader at a place; the state counts the
fetches of all readers. -/
def fetch (reader : FailingReader) (place : Nat) (numbers : List Int) :
    Call (List Nat) (List Record) := do
  let made := (← get)[place]?.getD 0
  if 0 ≤ reader.failAfter && reader.failAfter ≤ made then throw reader.fault
  modify fun counts => counts.set place (made + 1)
  match reader.recordsOf numbers with
  | .ok records => return records.take (records.length - reader.shortBy)
  | .error fault => throw fault

end FailingReader

end PipeQuery
