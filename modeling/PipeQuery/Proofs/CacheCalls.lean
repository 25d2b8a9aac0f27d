import PipeQuery.Proofs.Outcome
import PipeQuery.Source.ReaderCache
import PipeQuery.Source.MemoryIndex

/-!
# What the calls to a cache over records in memory come to

The calls of the reader cache are written against an adapter that may fail.
The adapter of a `MemoryIndex` never does, so each call is a plain change of
what the cache remembers.  There are four of them: an entry changes and its
reader is closed if nobody has a use for it any more (`change`), a source is
forgotten (`forget`), an opening is counted (`counted`), and a reader is opened
(`opened`).

* `on_retire`, `on_release` and `on_close`: these calls answer, and are changes
  of entries.
* `acquire?_cases`: everything that can happen when a reader is leased.
-/

namespace PipeQuery

/-- A cache over records in memory. -/
abbrev MemorySourcing := Sourcing MemoryIndex MemoryReader

namespace CacheEntry

variable {ρ : Type}

/-- Nobody has a use for the reader: it is retired and all its leases ended. -/
def isSpent (e : CacheEntry ρ) : Bool := e.retired && e.leases == 0

/-- The entry, no longer to be leased. -/
def retire (e : CacheEntry ρ) : CacheEntry ρ := { e with retired := true }

/-- The entry with one more lease. -/
def lend (e : CacheEntry ρ) : CacheEntry ρ := { e with leases := e.leases + 1 }

/-- The entry with one lease less. -/
def giveBack (e : CacheEntry ρ) : CacheEntry ρ := { e with leases := e.leases - 1 }

end CacheEntry

namespace MemoryIndex

/-- The index after a reader was closed. -/
def closing (index : MemoryIndex) (reader : MemoryReader) : MemoryIndex :=
  { index with closed := index.closed ++ [reader.serial] }

/-- The reader shows the newest generation of the source. -/
def Shows (index : MemoryIndex) (source : String) (reader : MemoryReader) : Prop :=
  (index.contents.get? source).map SourceContent.generation = some reader.generation

end MemoryIndex

namespace Sourcing

/-- The entry in a place. -/
def entryAt? {σ ρ : Type} (s : Sourcing σ ρ) (id : LeaseId) : Option (CacheEntry ρ) :=
  s.cache.entries[id]?

/-! ## Changes -/

/-- Changes an entry, whatever becomes of its reader. -/
def modified (s : MemorySourcing) (id : LeaseId)
    (f : CacheEntry MemoryReader → CacheEntry MemoryReader) : MemorySourcing :=
  { s with cache := s.cache.modifyEntry id f }

/-- Changes an entry, and closes its reader if nobody has a use for it then. -/
def change (s : MemorySourcing) (id : LeaseId)
    (f : CacheEntry MemoryReader → CacheEntry MemoryReader) : MemorySourcing :=
  match s.entryAt? id with
  | none => s
  | some e =>
    ⟨if (f e).isSpent then s.outside.closing e.reader else s.outside, s.cache.modifyEntry id f⟩

/-- No entry is cached for the source any more. -/
def forget (s : MemorySourcing) (source : String) : MemorySourcing :=
  { s with cache := { s.cache with cached := s.cache.cached.erase source } }

/-- A reader was asked for. -/
def counted (s : MemorySourcing) : MemorySourcing :=
  { s with outside := { s.outside with openings := s.outside.openings + 1 } }

/-- The reader that is opened on a source with some content. -/
def newReader (s : MemorySourcing) (source : String) (content : SourceContent) : MemoryReader :=
  ⟨s.outside.openings, source, content.records, content.generation⟩

/-- A reader was opened on a source and cached. -/
def opened (s : MemorySourcing) (source : String) (content : SourceContent) : MemorySourcing :=
  { s.counted with
    cache := ⟨s.cache.entries ++ [⟨s.newReader source content, 0, false⟩],
      s.cache.cached.insert source s.cache.entries.length⟩ }

/-- Entries are retired one after the other. -/
def retiredAll (s : MemorySourcing) (ids : List LeaseId) : MemorySourcing :=
  ids.foldl (fun s id => s.change id .retire) s

/-- All cached entries are retired, and nothing is cached any more. -/
def closedDown (s : MemorySourcing) : MemorySourcing :=
  let t := s.retiredAll s.cache.cached.values
  { t with cache := { t.cache with cached := .empty } }

theorem change_of_entry {s : MemorySourcing} {id : LeaseId} {e : CacheEntry MemoryReader}
    (f : CacheEntry MemoryReader → CacheEntry MemoryReader) (he : s.entryAt? id = some e) :
    s.change id f =
      ⟨if (f e).isSpent then s.outside.closing e.reader else s.outside,
        s.cache.modifyEntry id f⟩ := by
  rw [change, he]

theorem change_of_none {s : MemorySourcing} {id : LeaseId}
    (f : CacheEntry MemoryReader → CacheEntry MemoryReader) (he : s.entryAt? id = none) :
    s.change id f = s := by
  rw [change, he]

/-- Changing an entry that is not there changes nothing. -/
theorem modified_of_none {s : MemorySourcing} {id : LeaseId}
    (f : CacheEntry MemoryReader → CacheEntry MemoryReader) (he : s.entryAt? id = none) :
    s.modified id f = s := by
  have hlen : s.cache.entries.length ≤ id := List.getElem?_eq_none_iff.1 he
  rw [modified, ReaderCache.modifyEntry, List.modify_eq_self hlen]

@[simp]
theorem entryAt?_modified (s : MemorySourcing) (id : LeaseId)
    (f : CacheEntry MemoryReader → CacheEntry MemoryReader) :
    (s.modified id f).entryAt? id = (s.entryAt? id).map f := by
  simp [entryAt?, modified, ReaderCache.modifyEntry]

/-! ## Calls that end a use -/

theorem on_entryOf? {σ ρ : Type} (id : LeaseId) (s : Sourcing σ ρ) :
    Call.on (entryOf? id) s = (.ok (s.entryAt? id), s) := rfl

theorem on_modifyEntry (id : LeaseId) (f : CacheEntry MemoryReader → CacheEntry MemoryReader)
    (s : MemorySourcing) :
    Call.on (modifyCache fun cache => cache.modifyEntry id f) s = (.ok (), s.modified id f) := rfl

/-- A call to the adapter leaves the cache as it is. -/
theorem on_call {σ ρ α : Type} {x : Call σ α} {s : Sourcing σ ρ} {outcome : Except Fault α}
    {outside : σ} (h : Call.on x s.outside = (outcome, outside)) :
    Call.on (call x) s = (outcome, { s with outside := outside }) := by
  show (match Call.on x s.outside with
    | (outcome, outside) => (outcome, ({ s with outside := outside } : Sourcing σ ρ))) = _
  rw [h]

theorem on_closeIfFree (id : LeaseId) (s : MemorySourcing) :
    Call.on (closeIfFree MemoryIndex.adapter id) s =
      (.ok (), match s.entryAt? id with
        | some e => if e.leases = 0 then { s with outside := s.outside.closing e.reader } else s
        | none => s) := by
  unfold closeIfFree
  rw [Call.on_bind_ok (on_entryOf? id s)]
  cases s.entryAt? id with
  | none => rfl
  | some e =>
      by_cases hl : e.leases = 0
      · simp only [hl, if_true]; rfl
      · simp only [hl, if_false]; rfl

theorem on_retire (id : LeaseId) (s : MemorySourcing) :
    Call.on (retire MemoryIndex.adapter id) s = (.ok (), s.change id .retire) := by
  unfold retire
  rw [Call.on_bind_ok (t := s.modified id .retire) (by exact on_modifyEntry id .retire s),
    on_closeIfFree, entryAt?_modified]
  cases he : s.entryAt? id with
  | none => rw [change_of_none _ he, Option.map_none, modified_of_none _ he]
  | some e =>
      rw [change_of_entry _ he, Option.map_some]
      by_cases hl : e.leases = 0 <;>
        simp [CacheEntry.retire, CacheEntry.isSpent, modified, hl]

theorem on_release (id : LeaseId) (s : MemorySourcing) :
    Call.on (release MemoryIndex.adapter id) s = (.ok (), s.change id .giveBack) := by
  unfold release
  rw [Call.on_bind_ok (t := s.modified id .giveBack) (by exact on_modifyEntry id .giveBack s),
    Call.on_bind_ok (on_entryOf? id _)]
  cases he : s.entryAt? id with
  | none =>
      rw [change_of_none _ he, modified_of_none _ he, he]
      rfl
  | some e =>
      have hnew : (s.modified id .giveBack).entryAt? id = some e.giveBack := by
        rw [entryAt?_modified, he, Option.map_some]
      rw [hnew, change_of_entry _ he]
      by_cases hr : e.giveBack.retired = true
      · simp only [hr, if_true, on_closeIfFree, hnew]
        have hreader : e.giveBack.reader = e.reader := rfl
        by_cases hl : e.giveBack.leases = 0 <;>
          simp [CacheEntry.isSpent, modified, hr, hl, hreader]
      · simp [CacheEntry.isSpent, modified, hr]

theorem on_retireAll (ids : List LeaseId) : ∀ s : MemorySourcing,
    Call.on (retireAll MemoryIndex.adapter ids) s = (.ok (), s.retiredAll ids) := by
  induction ids with
  | nil => intro s; rfl
  | cons id rest ih =>
      intro s
      unfold retireAll
      rw [Call.on_bind_ok (on_retire id s), ih]
      rfl

theorem on_close (s : MemorySourcing) :
    Call.on (close MemoryIndex.adapter) s = (.ok (), s.closedDown) := by
  unfold close
  rw [Call.on_bind_ok (Call.on_get s), Call.on_bind_ok (on_retireAll _ s)]
  rfl

/-! ## Leasing -/

/-- What is left of the cache when a source is about to be opened: an entry
that was cached for it is retired and forgotten. -/
def Cleared (s : MemorySourcing) (source : String) (t : MemorySourcing) : Prop :=
  (s.cache.cached.get? source = none ∧ t = s) ∨
    ∃ id e, s.cache.cached.get? source = some id ∧ s.entryAt? id = some e ∧
      ¬ s.outside.Shows source e.reader ∧ t = (s.change id .retire).forget source

theorem on_isCurrent (source : String) (reader : MemoryReader) (index : MemoryIndex) :
    Call.on (MemoryIndex.adapter.isCurrent source reader) index =
      (.ok ((index.contents.get? source).map SourceContent.generation == some reader.generation),
        index) := rfl

theorem on_openReader (source : String) (index : MemoryIndex) :
    Call.on (MemoryIndex.adapter.openReader source) index =
      (.ok ((index.contents.get? source).map fun content =>
          ⟨index.openings, source, content.records, content.generation⟩),
        { index with openings := index.openings + 1 }) := rfl

theorem on_currentLease?_current {s : MemorySourcing} {source : String} {id : LeaseId}
    {e : CacheEntry MemoryReader} (hid : s.cache.cached.get? source = some id)
    (he : s.entryAt? id = some e) (hshows : s.outside.Shows source e.reader) :
    Call.on (currentLease? MemoryIndex.adapter source) s = (.ok (some ⟨id, e.reader⟩), s) := by
  unfold currentLease?
  rw [Call.on_bind_ok (Call.on_get s)]
  simp only [hid]
  rw [Call.on_bind_ok (on_entryOf? id s)]
  simp only [he]
  have hb : ((s.outside.contents.get? source).map SourceContent.generation
      == some e.reader.generation) = true := by simpa [MemoryIndex.Shows] using hshows
  rw [Call.on_bind_ok (on_call (on_isCurrent source e.reader s.outside)), hb]
  rfl

theorem on_currentLease?_stale {s : MemorySourcing} {source : String} {id : LeaseId}
    {e : CacheEntry MemoryReader} (hid : s.cache.cached.get? source = some id)
    (he : s.entryAt? id = some e) (hshows : ¬ s.outside.Shows source e.reader) :
    Call.on (currentLease? MemoryIndex.adapter source) s =
      (.ok none, (s.change id .retire).forget source) := by
  unfold currentLease?
  rw [Call.on_bind_ok (Call.on_get s)]
  simp only [hid]
  rw [Call.on_bind_ok (on_entryOf? id s)]
  simp only [he]
  have hb : ((s.outside.contents.get? source).map SourceContent.generation
      == some e.reader.generation) = false := by simpa [MemoryIndex.Shows] using hshows
  rw [Call.on_bind_ok (on_call (on_isCurrent source e.reader s.outside)), hb]
  simp only [Bool.false_eq_true, if_false]
  rw [Call.on_bind_ok (on_retire id s)]
  rfl

theorem on_openLease?_unknown {s : MemorySourcing} {source : String}
    (h : s.outside.contents.get? source = none) :
    Call.on (openLease? MemoryIndex.adapter source) s = (.ok none, s.counted) := by
  unfold openLease?
  rw [Call.on_bind_ok (on_call (on_openReader source s.outside)), h]
  rfl

theorem on_openLease?_known {s : MemorySourcing} {source : String} {content : SourceContent}
    (h : s.outside.contents.get? source = some content) :
    Call.on (openLease? MemoryIndex.adapter source) s =
      (.ok (some ⟨s.cache.entries.length, s.newReader source content⟩),
        s.opened source content) := by
  unfold openLease?
  rw [Call.on_bind_ok (on_call (on_openReader source s.outside)), h]
  rfl

/-- Lending an entry closes nothing. -/
theorem change_lend (s : MemorySourcing) (id : LeaseId) :
    s.change id .lend = s.modified id .lend := by
  cases he : s.entryAt? id with
  | none => rw [change_of_none _ he, modified_of_none _ he]
  | some e => rw [change_of_entry _ he]; simp [CacheEntry.isSpent, CacheEntry.lend, modified]

theorem on_acquire?_cached {s t : MemorySourcing} {source : String} {lease : Lease MemoryReader}
    (hcurrent : Call.on (currentLease? MemoryIndex.adapter source) s = (.ok (some lease), t)) :
    Call.on (acquire? MemoryIndex.adapter source) s =
      (.ok (some lease), t.change lease.id .lend) := by
  unfold acquire?
  rw [Call.on_bind_ok hcurrent, change_lend]
  rfl

theorem on_acquire?_unknown {s t u : MemorySourcing} {source : String}
    (hcurrent : Call.on (currentLease? MemoryIndex.adapter source) s = (.ok none, t))
    (hopen : Call.on (openLease? MemoryIndex.adapter source) t = (.ok none, u)) :
    Call.on (acquire? MemoryIndex.adapter source) s = (.ok none, u) := by
  unfold acquire?
  rw [Call.on_bind_ok hcurrent]
  simp only
  rw [Call.on_bind_ok hopen]
  rfl

theorem on_acquire?_opened {s t u : MemorySourcing} {source : String}
    {lease : Lease MemoryReader}
    (hcurrent : Call.on (currentLease? MemoryIndex.adapter source) s = (.ok none, t))
    (hopen : Call.on (openLease? MemoryIndex.adapter source) t = (.ok (some lease), u)) :
    Call.on (acquire? MemoryIndex.adapter source) s =
      (.ok (some lease), u.change lease.id .lend) := by
  unfold acquire?
  rw [Call.on_bind_ok hcurrent]
  simp only
  rw [Call.on_bind_ok hopen, change_lend]
  rfl

/-- **Everything that can happen when a reader is leased**, provided that what
is cached is there: the cached reader is current and lent; or it is not, the
source is cleared, and a reader is opened on it if it is known. -/
theorem acquire?_cases {s : MemorySourcing} (source : String)
    (hthere : ∀ id, s.cache.cached.get? source = some id → ∃ e, s.entryAt? id = some e) :
    (∃ id e, s.cache.cached.get? source = some id ∧ s.entryAt? id = some e ∧
      s.outside.Shows source e.reader ∧
      Call.on (acquire? MemoryIndex.adapter source) s =
        (.ok (some ⟨id, e.reader⟩), s.change id .lend)) ∨
    ∃ t, s.Cleared source t ∧
      ((t.outside.contents.get? source = none ∧
        Call.on (acquire? MemoryIndex.adapter source) s = (.ok none, t.counted)) ∨
      ∃ content, t.outside.contents.get? source = some content ∧
        Call.on (acquire? MemoryIndex.adapter source) s =
          (.ok (some ⟨t.cache.entries.length, t.newReader source content⟩),
            (t.opened source content).change t.cache.entries.length .lend)) := by
  have hopen : ∀ t,
      Call.on (currentLease? MemoryIndex.adapter source) s = (.ok none, t) →
      ((t.outside.contents.get? source = none ∧
        Call.on (acquire? MemoryIndex.adapter source) s = (.ok none, t.counted)) ∨
      ∃ content, t.outside.contents.get? source = some content ∧
        Call.on (acquire? MemoryIndex.adapter source) s =
          (.ok (some ⟨t.cache.entries.length, t.newReader source content⟩),
            (t.opened source content).change t.cache.entries.length .lend)) := by
    intro t hcurrent
    cases hc : t.outside.contents.get? source with
    | none => exact Or.inl ⟨rfl, on_acquire?_unknown hcurrent (on_openLease?_unknown hc)⟩
    | some content =>
        exact Or.inr ⟨content, rfl, on_acquire?_opened hcurrent (on_openLease?_known hc)⟩
  cases hid : s.cache.cached.get? source with
  | none =>
      refine Or.inr ⟨s, Or.inl ⟨hid, rfl⟩, hopen s ?_⟩
      unfold currentLease?
      rw [Call.on_bind_ok (Call.on_get s)]
      simp only [hid]
      rfl
  | some id =>
      obtain ⟨e, he⟩ := hthere id hid
      by_cases hshows : s.outside.Shows source e.reader
      · exact Or.inl ⟨id, e, rfl, he, hshows,
          on_acquire?_cached (on_currentLease?_current hid he hshows)⟩
      · have hcleared : s.Cleared source ((s.change id .retire).forget source) :=
          Or.inr ⟨id, e, hid, he, hshows, rfl⟩
        exact Or.inr ⟨_, hcleared, hopen _ (on_currentLease?_stale hid he hshows)⟩

end Sourcing

end PipeQuery
