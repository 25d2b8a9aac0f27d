import PipeQuery.Proofs.Leasing
import PipeQuery.Proofs.Matches
import PipeQuery.Proofs.Merging
import PipeQuery.Search.Service

/-!
# Searching records in memory

A search leases its sources one after the other, asks each reader, and works
with what came of all while every lease is held.

* `Leased` is the state in between: the readers show what the known sources
  hold, in the order asked for, and none of them is closed.
* `outcome_withSources`: a search comes to what its last part makes of the
  readers, and the ends of the leases change nothing about it.
  `run_withSources` says also what the search leaves behind.
* `gives_memoryStream`: while its reader is open, the stream of some hits gives
  the records they stand for.
-/

namespace PipeQuery

namespace MemoryIndex

/-- The sources that are known, with their records. -/
def known (index : MemoryIndex) (sources : List String) : List (String × List Record) :=
  sources.filterMap fun source =>
    (index.contents.get? source).map fun content => (source, content.records)

/-- What a filter selects in each known source, in the order of the sources. -/
def matchLists (index : MemoryIndex) (sources : List String) (filter : String)
    (range : Option TimeRange) : List (List Record) :=
  (index.known sources).map fun p => matchesIn p.1 p.2 filter range

theorem known_cons_of_none {index : MemoryIndex} {source : String}
    (h : index.contents.get? source = none) (rest : List String) :
    index.known (source :: rest) = index.known rest := by
  simp [known, h]

theorem known_cons_of_some {index : MemoryIndex} {source : String} {content : SourceContent}
    (h : index.contents.get? source = some content) (rest : List String) :
    index.known (source :: rest) = (source, content.records) :: index.known rest := by
  simp [known, h]

theorem known_congr {index index' : MemoryIndex} (h : index.contents = index'.contents)
    (sources : List String) : index.known sources = index'.known sources := by
  rw [known, known, h]

/-- A source with one record. -/
def oneRecord : OrderedMap String SourceContent :=
  OrderedMap.empty.insert "app" ⟨[{ (default : Record) with raw := "x" }], 1⟩

/-- A record of a second, with a level. -/
def stamped (raw : String) (second : Int) (level : String) : Record :=
  { (default : Record) with
    raw := raw, timestamp := some ⟨second * microsPerSecond, 0⟩, fields := .ofList [("level", level)] }

/-- Two sources with records of the same second. -/
def sameSeconds : OrderedMap String SourceContent :=
  .ofList [
    ("app", ⟨[stamped "a" 1 "info", stamped "b" 3 "info", stamped "c" 1 "info"], 1⟩),
    ("db", ⟨[stamped "d" 1 "info", stamped "e" 3 "warn"], 1⟩)]

/-- A record of `sameSeconds` as it is found. -/
def stampedIn (source raw : String) (second : Int) (level : String) : Record :=
  { stamped raw second level with score := .ofInt 1, collection := some source }

/-- Such records stand to each other as their seconds do. -/
theorem byTimestamp_stampedIn (descending : Bool) {second second' : Int}
    (h : second = 1 ∨ second = 3) (h' : second' = 1 ∨ second' = 3)
    (source raw level source' raw' level' : String) :
    Comparator.byTimestamp descending (stampedIn source raw second level)
      (stampedIn source' raw' second' level') =
        Comparator.turn descending (compare second second') := by
  have hmillis : ∀ n : Int, n = 1 ∨ n = 3 →
      Timestamp.millis ⟨n * microsPerSecond, 0⟩ = n * 1000 := by
    rintro n (rfl | rfl) <;> decide +kernel
  show Comparator.turn descending (compare (Timestamp.millis ⟨second * microsPerSecond, 0⟩)
    (Timestamp.millis ⟨second' * microsPerSecond, 0⟩)) = _
  rw [hmillis _ h, hmillis _ h']
  rcases h with rfl | rfl <;> rcases h' with rfl | rfl <;> rfl

end MemoryIndex

/-! ## Leases -/

/-- From a cache `s` of which `leases` have not ended, the known ones of some
sources were leased, which led to `t`. -/
structure Leased (s : MemorySourcing) (leases : List LeaseId) (sources : List String)
    (readers : List MemoryReader) (t : MemorySourcing) : Prop where
  shown : readers.map (fun r => (r.source, r.records)) = s.outside.known sources
  held : ∃ more, t.Sound more ∧ ∀ id ∈ leases, id ∈ more
  keeps : Sourcing.Keeps s t
  isOpen : ∀ r ∈ readers, t.outside.isClosed r = false

namespace Leased

variable {s t u : MemorySourcing} {leases : List LeaseId} {source : String}
  {sources : List String} {readers : List MemoryReader}

theorem nil (h : s.Sound leases) : Leased s leases [] [] s :=
  ⟨rfl, ⟨leases, h, fun _ hid => hid⟩, Sourcing.Keeps.refl s, by simp⟩

/-- A source that is not known is passed over. -/
theorem skip (hunknown : s.outside.contents.get? source = none)
    (hcontents : t.outside.contents = s.outside.contents) (hkeeps : Sourcing.Keeps s t)
    (h : Leased t leases sources readers u) : Leased s leases (source :: sources) readers u where
  shown := by rw [h.shown, MemoryIndex.known_congr hcontents,
    MemoryIndex.known_cons_of_none hunknown]
  held := h.held
  keeps := hkeeps.trans h.keeps
  isOpen := h.isOpen

/-- A known source is leased, and its reader is not closed by what comes
later. -/
theorem cons {content : SourceContent} {lease : Lease MemoryReader}
    (hknown : s.outside.contents.get? source = some content)
    (hsource : lease.reader.source = source) (hrecords : lease.reader.records = content.records)
    (hplace : ∃ e, t.entryAt? lease.id = some e ∧ e.reader = lease.reader)
    (hcontents : t.outside.contents = s.outside.contents) (hkeeps : Sourcing.Keeps s t)
    (h : Leased t (lease.id :: leases) sources readers u) :
    Leased s leases (source :: sources) (lease.reader :: readers) u := by
  obtain ⟨more, hsound, hmore⟩ := h.held
  refine ⟨?_, ⟨more, hsound, fun id hid => hmore id (List.mem_cons_of_mem _ hid)⟩,
    hkeeps.trans h.keeps, ?_⟩
  · rw [List.map_cons, h.shown, MemoryIndex.known_congr hcontents,
      MemoryIndex.known_cons_of_some hknown, hsource, hrecords]
  · intro r hr
    rcases List.mem_cons.1 hr with rfl | hr
    · obtain ⟨e, he, hreader⟩ := hplace
      obtain ⟨e', he', hreader'⟩ := h.keeps lease.id e he
      rw [← hreader, ← hreader']
      exact Sourcing.Sound.isClosed_eq_false hsound (hmore _ (List.mem_cons_self ..)) he'
    · exact h.isOpen r hr

/-- What the readers select is what the sources hold. -/
theorem matchLists (h : Leased s leases sources readers t) (filter : String)
    (range : Option TimeRange) :
    readers.map (fun r => matchesIn r.source r.records filter range) =
      s.outside.matchLists sources filter range := by
  rw [MemoryIndex.matchLists, ← h.shown, List.map_map]
  rfl

end Leased

namespace SearchService

/-- The service on records in memory. -/
abbrev inMemory (settings : SearchSettings) : SearchService MemoryIndex MemoryReader :=
  ⟨MemoryIndex.adapter, settings⟩

/-- What a search finds in each known source, in the order it asks for them. -/
def found (s : SearchService MemoryIndex MemoryReader) (r : SearchRequest)
    (index : MemoryIndex) : List (List Record) :=
  index.matchLists (s.sourcesOf r) (Query.read r.query).base r.range

theorem scoresAreNumbers_found (s : SearchService MemoryIndex MemoryReader) (r : SearchRequest)
    (index : MemoryIndex) : ∀ l ∈ s.found r index, Comparator.ScoresAreNumbers l := by
  intro l hl
  obtain ⟨p, _, rfl⟩ := List.mem_map.1 hl
  exact scoresAreNumbers_matchesIn _ _ _ _

/-- The whole of a search: the readers are leased, the last part works with them, and the leases end
without a fault.  If the last part leaves the world as it is, the cache is sound for the leases from
before, and the sources hold what they held. -/
theorem run_withSources {α : Type}
    {visit : String → MemoryReader → Gathering MemoryIndex MemoryReader →
      Searching MemoryIndex MemoryReader (Gathering MemoryIndex MemoryReader)}
    {collect : MemoryReader → Gathering MemoryIndex MemoryReader →
      Gathering MemoryIndex MemoryReader}
    (finish : Gathering MemoryIndex MemoryReader → Searching MemoryIndex MemoryReader α)
    (hvisit : ∀ reader g (w : World MemorySourcing),
      Call.on (visit reader.source reader g) w = (.ok (collect reader g), w))
    (sources : List String) (g : Gathering MemoryIndex MemoryReader) (w : World MemorySourcing)
    {leases : List LeaseId} (h : w.state.Sound leases) :
    ∃ (readers : List MemoryReader) (v u : World MemorySourcing) (outcome : Except Fault α),
      Leased w.state leases sources readers v.state ∧
      Call.on (withSources MemoryIndex.adapter visit finish sources g) w = (outcome, u) ∧
      (Call.on (finish (readers.foldl (fun g r => collect r g) g)) v).1 = outcome ∧
      ((Call.on (finish (readers.foldl (fun g r => collect r g) g)) v).2 = v →
        u.state.Sound leases ∧ u.state.outside.contents = w.state.outside.contents) := by
  induction sources generalizing g w leases with
  | nil =>
      refine ⟨[], w, (Call.on (finish g) w).2, _, Leased.nil h, rfl, rfl, fun hsame => ?_⟩
      have hleft : (Call.on (finish g) w).2 = w := hsame
      rw [hleft]
      exact ⟨h, rfl⟩
  | cons source rest ih =>
      unfold withSources
      rcases Sourcing.Sound.acquire h source with
        ⟨hunknown, t, hcall, ht, hcontents, hkeeps⟩ |
        ⟨content, lease, t, hcontent, hcall, hsource, hrecords, hplace, ht, hcontents, hkeeps⟩
      · obtain ⟨readers, v, u, outcome, hleased, hrun, hcome, hleft⟩ :=
          ih g ⟨t, w.log ++ [⟨.warning, loggerId, "Source does not exist: " ++ source⟩]⟩ ht
        refine ⟨readers, v, u, outcome, hleased.skip hunknown hcontents hkeeps, ?_, hcome,
          fun hsame => ⟨(hleft hsame).1, (hleft hsame).2.trans hcontents⟩⟩
        rw [Call.on_bind_ok (Run.on_onState hcall)]
        show Call.on (Run.write .warning loggerId _ >>= _) _ = _
        rw [Call.on_bind_ok (Run.on_write ..)]
        exact hrun
      · obtain ⟨readers, v, u, outcome, hleased, hrun, hcome, hleft⟩ :=
          ih (collect lease.reader g) ⟨t, w.log⟩ ht
        refine ⟨lease.reader :: readers, v, { u with state := u.state.change lease.id .giveBack },
          outcome, hleased.cons hcontent hsource hrecords hplace hcontents hkeeps, ?_, hcome,
          fun hsame => ?_⟩
        · rw [Call.on_bind_ok (Run.on_onState hcall)]
          have hvisited : Call.on (do
              withSources MemoryIndex.adapter visit finish rest (← visit source lease.reader g))
              (⟨t, w.log⟩ : World MemorySourcing) = (outcome, u) := by
            have hreader := hvisit lease.reader g ⟨t, w.log⟩
            rw [hsource] at hreader
            rw [Call.on_bind_ok hreader, hrun]
          exact Run.on_andLast hvisited (Run.on_onState (Sourcing.on_release lease.id u.state))
        · obtain ⟨hsound, hsame'⟩ := hleft hsame
          have hended := (Sourcing.Sound.release hsound (List.mem_cons_self ..)).2
          rw [List.erase_cons_head] at hended
          exact ⟨hended, (Sourcing.contents_change _ _ _).trans (hsame'.trans hcontents)⟩

/-- **A search comes to what its last part makes of the readers**, which are
open while it does.  Whatever that is, the leases end without a fault. -/
theorem outcome_withSources {α : Type}
    {visit : String → MemoryReader → Gathering MemoryIndex MemoryReader →
      Searching MemoryIndex MemoryReader (Gathering MemoryIndex MemoryReader)}
    {collect : MemoryReader → Gathering MemoryIndex MemoryReader →
      Gathering MemoryIndex MemoryReader}
    (finish : Gathering MemoryIndex MemoryReader → Searching MemoryIndex MemoryReader α)
    (hvisit : ∀ reader g (w : World MemorySourcing),
      Call.on (visit reader.source reader g) w = (.ok (collect reader g), w))
    (sources : List String) (g : Gathering MemoryIndex MemoryReader) (w : World MemorySourcing)
    {leases : List LeaseId} (h : w.state.Sound leases) :
    ∃ (readers : List MemoryReader) (v : World MemorySourcing),
      Leased w.state leases sources readers v.state ∧
      (Call.on (withSources MemoryIndex.adapter visit finish sources g) w).1 =
        (Call.on (finish (readers.foldl (fun g r => collect r g) g)) v).1 := by
  obtain ⟨readers, v, u, outcome, hleased, hrun, hcome, -⟩ :=
    run_withSources finish hvisit sources g w h
  exact ⟨readers, v, hleased, by rw [hrun, hcome]⟩

/-! ## Asking readers -/

/-- A reader in memory answers at once. -/
theorem on_ask_pure {α : Type} (source : String) (a : α) (w : World MemorySourcing) :
    Call.on (ask source (return a : Call MemoryIndex α)) w = (.ok a, w) :=
  Run.on_mapFault_ok (Run.on_onState (Sourcing.on_call (Call.on_pure a w.state.outside)))

/-- The stream of some hits of a reader. -/
def memoryStream (settings : SearchSettings) (reader : MemoryReader) (hits : List Hit) :
    HitStream MemorySourcing :=
  .atStart (fun numbers => Sourcing.call (MemoryIndex.fetch reader numbers)) hits reader.source
    settings.batchSize.toNat

/-- Some hits are made a stream. -/
theorem on_streamOf {settings : SearchSettings} (hsize : 1 ≤ settings.batchSize)
    (reader : MemoryReader) (hits : List Hit) (w : World MemorySourcing) :
    Call.on (Run.ofExcept (streamOf (inMemory settings) reader.source reader hits)) w =
      (.ok (memoryStream settings reader hits), w) := by
  rw [Run.on_ofExcept, streamOf, HitStream.start_of_pos hsize]
  rfl

/-- While its reader is open, the stream of some hits gives what they stand
for. -/
theorem gives_memoryStream {settings : SearchSettings} (hsize : 1 ≤ settings.batchSize)
    {reader : MemoryReader} {s : MemorySourcing} (hopen : s.outside.isClosed reader = false)
    {query : String} {range : Option TimeRange} {hits : List Hit}
    (hhits : ∀ h ∈ hits, h ∈ reader.hits query range) :
    (memoryStream settings reader hits).Gives s (hits.map reader.shown) := by
  have hfetch : ∀ part : List Hit, (∀ h ∈ part, h ∈ hits) →
      Call.on (Sourcing.call (MemoryIndex.fetch reader (part.map Hit.number))) s =
        (.ok (part.map fun h => reader.recordOf h.number), s) := by
    intro part hpart
    refine Sourcing.on_call ?_
    rw [Leasing.on_fetch hopen, MemoryReader.fetch_hits part fun h hh => hhits h (hpart h hh)]
  exact HitStream.gives_atStart (by omega) hfetch reader.source

/-- The streams of several readers give what their hits stand for. -/
theorem serve_memoryStreams {settings : SearchSettings} (hsize : 1 ≤ settings.batchSize)
    {readers : List MemoryReader} {s : MemorySourcing}
    (hopen : ∀ r ∈ readers, s.outside.isClosed r = false) {query : String}
    {range : Option TimeRange} (hitsOf : MemoryReader → List Hit)
    (hhits : ∀ r ∈ readers, ∀ h ∈ hitsOf r, h ∈ r.hits query range) :
    MultiStream.Serve (readers.map fun r => memoryStream settings r (hitsOf r)) s
      (readers.map fun r => (hitsOf r).map r.shown) := by
  rw [MultiStream.Serve, List.forall₂_map_left_iff, List.forall₂_map_right_iff, List.forall₂_same]
  exact fun r hr => gives_memoryStream hsize (hopen r hr) (hhits r hr)

/-! ## Taking records -/

theorem on_records_some {stream : MultiStream MemorySourcing} {w : World MemorySourcing}
    {found : List Record} (h : MultiStream.Yields w.state found stream) (n : Nat) :
    Call.on (records stream (some n)) w = (.ok (found.take n), w) := by
  obtain ⟨t, ht⟩ := h.takeNext n
  show (match stream.takeNext n w with | ((outcome, _), w) => (outcome, w)) = _
  rw [show stream.takeNext n w = _ from ht]

theorem on_records_none {stream : MultiStream MemorySourcing} {w : World MemorySourcing}
    {found : List Record} (h : MultiStream.Yields w.state found stream)
    (hleft : found.length ≤ stream.left) : Call.on (records stream none) w = (.ok found, w) := by
  obtain ⟨t, ht⟩ := h.drain hleft
  show (match stream.drain w with | ((outcome, _), w) => (outcome, w)) = _
  rw [show stream.drain w = _ from ht]

end SearchService

end PipeQuery
