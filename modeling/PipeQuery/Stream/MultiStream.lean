import PipeQuery.Stream.HitStream
import PipeQuery.Stream.Comparator

/-!
# Streams over several sources

Several streams of hits as one: one after the other, or merged by a
comparator, where every source is ahead by at most one record.  In a merge, a
source whose record was given is asked for its next one only when the merge is
asked again; of equal records the one of the earlier source comes first.  A
merge that failed has ended.
-/

namespace PipeQuery

/-- How far a merge is. -/
inductive MergeState where
  | notStarted
  /-- The next record of every source that has one, by the place of the
  source, and the source that has to give its next one first. -/
  | running (heads : List (Nat × Record)) (owed : Option Nat)
  | finished

/-- Several sources as one stream. -/
structure MultiStream (σ : Type) where
  sources : List (HitStream σ)
  /-- Without a comparator, one source after the other. -/
  comparator : Option Comparator
  merge : MergeState
  /-- The record that was looked at but not yet given. -/
  pending : Option Record

namespace MultiStream

variable {σ : Type}

/-- A merge that nothing has been taken from. -/
def start (sources : List (HitStream σ)) (comparator : Option Comparator) : MultiStream σ :=
  ⟨sources, comparator, .notStarted, none⟩

/-- The next record of one of the sources. -/
def nextOf (s : MultiStream σ) (place : Nat) :
    StateM (World σ) (HitStream.Answer × MultiStream σ) := do
  match s.sources[place]? with
  | none => return (.ok none, s)
  | some source =>
    let (answer, source) ← source.next
    return (answer, { s with sources := s.sources.set place source })

/-! ## One after the other -/

/-- The next record of the first source that has one. -/
def nextInSequence (s : MultiStream σ) : StateM (World σ) (HitStream.Answer × MultiStream σ) :=
  match s.sources.findIdx? HitStream.hasNext with
  | none => return (.ok none, s)
  | some place => s.nextOf place

/-! ## Merged -/

/-- Takes the first record of each of some sources. -/
def takeHeads (s : MultiStream σ) (heads : List (Nat × Record)) :
    List Nat → StateM (World σ) (Except Fault (List (Nat × Record)) × MultiStream σ)
  | [] => return (.ok heads, s)
  | place :: rest => do
    let (answer, s) ← s.nextOf place
    match answer with
    | .error fault => return (.error fault, s)
    | .ok none => takeHeads s heads rest
    | .ok (some record) => takeHeads s (heads ++ [(place, record)]) rest

/-- The least of some heads, the earliest of equal ones. -/
def leastHead? (comparator : Comparator) : List (Nat × Record) → Option (Nat × Record)
  | [] => none
  | head :: rest =>
    match leastHead? comparator rest with
    | none => some head
    | some least => if comparator head.2 least.2 == .gt then some least else some head

/-- The heads, with the one of a source replaced or left out. -/
def replaceHead (place : Nat) (record : Option Record) (heads : List (Nat × Record)) :
    List (Nat × Record) :=
  heads.filterMap fun head =>
    if head.1 = place then record.map fun r => (place, r) else some head

/-- The heads once the owed record has been taken. -/
def currentHeads (s : MultiStream σ) :
    StateM (World σ) (Except Fault (List (Nat × Record)) × MultiStream σ) :=
  match s.merge with
  | .notStarted => takeHeads s [] (List.range s.sources.length)
  | .running heads none => return (.ok heads, s)
  | .running heads (some place) => do
    let (answer, s) ← s.nextOf place
    match answer with
    | .error fault => return (.error fault, s)
    | .ok record => return (.ok (replaceHead place record heads), s)
  | .finished => return (.ok [], s)

/-- The next record of the merge. -/
def nextMerged (comparator : Comparator) (s : MultiStream σ) :
    StateM (World σ) (HitStream.Answer × MultiStream σ) := do
  let (heads, s) ← s.currentHeads
  match heads with
  | .error fault => return (.error fault, { s with merge := .finished })
  | .ok heads =>
    match leastHead? comparator heads with
    | none => return (.ok none, { s with merge := .finished })
    | some (place, record) =>
      return (.ok (some record), { s with merge := .running heads (some place) })

/-! ## Asking -/

/-- Takes the next record of the sources. -/
def pull (s : MultiStream σ) : StateM (World σ) (HitStream.Answer × MultiStream σ) :=
  match s.comparator with
  | none => s.nextInSequence
  | some comparator => s.nextMerged comparator

/-- Looks at the next record without giving it. -/
def peek (s : MultiStream σ) : StateM (World σ) (HitStream.Answer × MultiStream σ) := do
  match s.pending with
  | some record => return (.ok (some record), s)
  | none =>
    let (answer, s) ← s.pull
    match answer with
    | .ok (some record) => return (answer, { s with pending := some record })
    | _ => return (answer, s)

/-- Says whether there is a next record, which is looked at for that. -/
def hasNext (s : MultiStream σ) : StateM (World σ) (Except Fault Bool × MultiStream σ) := do
  let (answer, s) ← s.peek
  return (answer.map Option.isSome, s)

/-- Gives the next record. -/
def next (s : MultiStream σ) : StateM (World σ) (HitStream.Answer × MultiStream σ) := do
  let (answer, s) ← s.peek
  return (answer, { s with pending := none })

/-- Gives up to `n` records. -/
def takeNext : Nat → MultiStream σ → StateM (World σ) (Except Fault (List Record) × MultiStream σ)
  | 0, s => return (.ok [], s)
  | n + 1, s => do
    let (answer, s) ← s.next
    match answer with
    | .error fault => return (.error fault, s)
    | .ok none => return (.ok [], s)
    | .ok (some record) =>
      let (rest, s) ← takeNext n s
      return (rest.map (record :: ·), s)

/-- The number of hits that have not been given. -/
def left (s : MultiStream σ) : Nat :=
  s.sources.foldl (fun count source => count + source.hits.length) 2

/-- Gives all records that are left. -/
def drain (s : MultiStream σ) : StateM (World σ) (Except Fault (List Record) × MultiStream σ) :=
  takeNext s.left s

end MultiStream

end PipeQuery
