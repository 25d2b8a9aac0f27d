import PipeQuery.Source.Adapter

/-!
# The reader cache

One reader a source is shared by all who lease it.  When its source has
changed, the reader is retired: it leaves the cache, a new one takes its place,
and it is closed when its last lease ends.
-/

namespace PipeQuery

/-- A reader that was opened. -/
structure CacheEntry (ρ : Type) where
  reader : ρ
  /-- The leases that have not ended. -/
  leases : Nat
  /-- No longer leased to anyone new. -/
  retired : Bool

/-- A lease is told by the place of its entry. -/
abbrev LeaseId := Nat

/-- A reader that is leased. -/
structure Lease (ρ : Type) where
  id : LeaseId
  reader : ρ

/-- All entries in the order of their opening, and the place of the entry that
is cached for each source. -/
structure ReaderCache (ρ : Type) where
  entries : List (CacheEntry ρ)
  cached : OrderedMap String LeaseId

/-- What a service remembers: its adapter's state and its readers. -/
structure Sourcing (σ ρ : Type) where
  outside : σ
  cache : ReaderCache ρ

namespace ReaderCache

variable {σ ρ : Type}

/-- No readers are kept. -/
def empty : ReaderCache ρ := ⟨[], .empty⟩

/-- Changes an entry. -/
def modifyEntry (cache : ReaderCache ρ) (id : LeaseId) (change : CacheEntry ρ → CacheEntry ρ) :
    ReaderCache ρ :=
  { cache with entries := cache.entries.modify id change }

/-- The sources that a reader is cached for. -/
def sources (cache : ReaderCache ρ) : List String := cache.cached.keys

end ReaderCache

namespace Sourcing

variable {σ ρ α : Type}

/-- The entry of a lease. -/
def entryOf? (id : LeaseId) : Call (Sourcing σ ρ) (Option (CacheEntry ρ)) := do
  let s ← get
  return s.cache.entries[id]?

/-- Changes the cache. -/
def modifyCache (change : ReaderCache ρ → ReaderCache ρ) : Call (Sourcing σ ρ) Unit :=
  modify fun s => { s with cache := change s.cache }

/-- A call to the adapter. -/
def call (x : Call σ α) : Call (Sourcing σ ρ) α := fun s =>
  match (ExceptT.run x).run s.outside with
  | (outcome, outside) => (outcome, { s with outside := outside })

/-- Closes a reader if nobody leases it. -/
def closeIfFree (a : Adapter σ ρ) (id : LeaseId) : Call (Sourcing σ ρ) Unit := do
  match ← entryOf? id with
  | some entry => if entry.leases = 0 then call (a.close entry.reader)
  | none => return

/-- Retires an entry and closes its reader if nobody leases it. -/
def retire (a : Adapter σ ρ) (id : LeaseId) : Call (Sourcing σ ρ) Unit := do
  modifyCache fun cache => cache.modifyEntry id fun entry => { entry with retired := true }
  closeIfFree a id

/-- The cached entry of a source, if its reader is current; an entry that is
not leaves the cache. -/
def currentLease? (a : Adapter σ ρ) (source : String) :
    Call (Sourcing σ ρ) (Option (Lease ρ)) := do
  let s ← get
  match s.cache.cached.get? source with
  | none => return none
  | some id =>
    match ← entryOf? id with
    | none => return none
    | some entry =>
      if ← call (a.isCurrent source entry.reader) then return some ⟨id, entry.reader⟩
      else
        retire a id
        modifyCache fun cache => { cache with cached := cache.cached.erase source }
        return none

/-- Opens a reader and caches it. -/
def openLease? (a : Adapter σ ρ) (source : String) :
    Call (Sourcing σ ρ) (Option (Lease ρ)) := do
  match ← call (a.openReader source) with
  | none => return none
  | some reader =>
    let s ← get
    let id : LeaseId := s.cache.entries.length
    let entry : CacheEntry ρ := ⟨reader, 0, false⟩
    set { s with cache := ⟨s.cache.entries ++ [entry], s.cache.cached.insert source id⟩ }
    return some ⟨id, reader⟩

/-- Leases the current reader of a source, if the source is known. -/
def acquire? (a : Adapter σ ρ) (source : String) : Call (Sourcing σ ρ) (Option (Lease ρ)) := do
  let cached ← currentLease? a source
  let found ← match cached with
    | some lease => pure (some lease)
    | none => openLease? a source
  match found with
  | none => return none
  | some lease =>
    modifyCache fun cache =>
      cache.modifyEntry lease.id fun entry => { entry with leases := entry.leases + 1 }
    return some lease

/-- Ends a lease; a retired reader is closed with its last one. -/
def release (a : Adapter σ ρ) (id : LeaseId) : Call (Sourcing σ ρ) Unit := do
  modifyCache fun cache =>
    cache.modifyEntry id fun entry => { entry with leases := entry.leases - 1 }
  match ← entryOf? id with
  | some entry => if entry.retired then closeIfFree a id
  | none => return

/-- Retires entries one after the other. -/
def retireAll (a : Adapter σ ρ) : List LeaseId → Call (Sourcing σ ρ) Unit
  | [] => return
  | id :: rest => do
    retire a id
    retireAll a rest

/-- Retires all that is cached. -/
def close (a : Adapter σ ρ) : Call (Sourcing σ ρ) Unit := do
  let s ← get
  retireAll a s.cache.cached.values
  modifyCache fun cache => { cache with cached := .empty }

end Sourcing

end PipeQuery
