import PipeQuery.Proofs.CacheSteps

/-!
# Histories of a reader cache

Anyone may add records to an index, lease a reader, end a lease that has not
ended, or close the cache, in any order and as often as they like.
`Leasing.perform` is one such step and `Leasing.run` a whole history; a lease
is told by the place of its entry, and what the clients hold is the list of the
leases that have not ended.

* `sound_run`: the invariants of `PipeQuery.Proofs.CacheSteps` hold after every
  history.
* `reliable_after_history`: what clients rely on.  A reader that somebody
  leases is not closed, one that nobody can use any more was closed exactly
  once, a new lease shows the records of its source at that moment, and a cache
  that was closed leaves no reader open once its leases have ended.
-/

namespace PipeQuery

/-- A cache over records in memory, and the leases that have not ended. -/
structure Leasing where
  sourcing : MemorySourcing
  leases : List LeaseId

namespace Leasing

/-- One step of somebody who works with the cache or its index. -/
inductive Act where
  | add (source : String) (records : List Record)
  | acquire (source : String)
  /-- Ends a lease; without one there is nothing to end. -/
  | release (id : LeaseId)
  | close

/-- The step leases nothing. -/
def Act.leasesNothing : Act → Bool
  | acquire _ => false
  | _ => true

/-- An empty cache over sources with some contents. -/
def start (contents : OrderedMap String SourceContent) : Leasing :=
  ⟨⟨⟨contents, 0, []⟩, .empty⟩, []⟩

/-- What becomes of the cache and the leases in one step. -/
def perform (l : Leasing) : Act → Leasing
  | .add source records =>
    { l with sourcing := { l.sourcing with outside := l.sourcing.outside.add source records } }
  | .acquire source =>
    match Call.on (Sourcing.acquire? MemoryIndex.adapter source) l.sourcing with
    | (.ok (some lease), s) => ⟨s, lease.id :: l.leases⟩
    | (_, s) => ⟨s, l.leases⟩
  | .release id =>
    if id ∈ l.leases then
      ⟨(Call.on (Sourcing.release MemoryIndex.adapter id) l.sourcing).2, l.leases.erase id⟩
    else l
  | .close => ⟨(Call.on (Sourcing.close MemoryIndex.adapter) l.sourcing).2, l.leases⟩

/-- What becomes of the cache and the leases in a history. -/
def run (l : Leasing) (acts : List Act) : Leasing := acts.foldl perform l

/-- Both invariants, for the leases that have not ended. -/
def Sound (l : Leasing) : Prop := l.sourcing.Sound l.leases

/-- A state that some history leads to. -/
def Reachable (l : Leasing) : Prop := ∃ contents acts, l = (start contents).run acts

/-- All readers that were opened are retired. -/
def AllRetired (l : Leasing) : Prop :=
  ∀ id e, l.sourcing.entryAt? id = some e → e.retired = true

section Steps

variable {l : Leasing} {source : String} {s : MemorySourcing}

theorem perform_acquire_none
    (h : Call.on (Sourcing.acquire? MemoryIndex.adapter source) l.sourcing = (.ok none, s)) :
    l.perform (.acquire source) = ⟨s, l.leases⟩ := by
  simp only [perform, h]

theorem perform_acquire_some {lease : Lease MemoryReader}
    (h : Call.on (Sourcing.acquire? MemoryIndex.adapter source) l.sourcing =
      (.ok (some lease), s)) :
    l.perform (.acquire source) = ⟨s, lease.id :: l.leases⟩ := by
  simp only [perform, h]

theorem perform_release {id : LeaseId} (hid : id ∈ l.leases) :
    l.perform (.release id) = ⟨l.sourcing.change id .giveBack, l.leases.erase id⟩ := by
  simp only [perform, hid, if_true, Sourcing.on_release]

theorem perform_release_of_notMem {id : LeaseId} (hid : id ∉ l.leases) :
    l.perform (.release id) = l := by
  simp only [perform, hid, if_false]

theorem perform_close (l : Leasing) : l.perform .close = ⟨l.sourcing.closedDown, l.leases⟩ := by
  simp only [perform, Sourcing.on_close]

end Steps

theorem sound_start (contents : OrderedMap String SourceContent) : (start contents).Sound where
  balanced := by
    have hnone : ∀ id, (start contents).sourcing.entryAt? id = none := fun _ => rfl
    refine ⟨?_, ?_, ?_, ?_, ?_, ?_, ?_⟩
    · intro id e he; rw [hnone] at he; cases he
    · intro id hid; cases hid
    · intro id e he; rw [hnone] at he; cases he
    · intro i j e f he; rw [hnone] at he; cases he
    · intro id e he; rw [hnone] at he; cases he
    · intro n hn; cases hn
    · intro id e he; rw [hnone] at he; cases he
  tracked := by
    intro source id
    constructor
    · intro h; cases h
    · rintro ⟨e, he, _⟩; cases he

/-- **Every step keeps the invariants.** -/
theorem sound_perform {l : Leasing} (h : l.Sound) (act : Act) : (l.perform act).Sound := by
  cases act with
  | add source records => exact Sourcing.Sound.add h source records
  | acquire source =>
      rcases Sourcing.Sound.acquire h source with
        ⟨_, t, hcall, ht, _⟩ | ⟨_, lease, t, _, hcall, _, _, _, ht, _⟩
      · rw [perform_acquire_none hcall]; exact ht
      · rw [perform_acquire_some hcall]; exact ht
  | release id =>
      by_cases hid : id ∈ l.leases
      · rw [perform_release hid]; exact (Sourcing.Sound.release h hid).2
      · rw [perform_release_of_notMem hid]; exact h
  | close => rw [perform_close]; exact (Sourcing.Sound.close h).2.1

theorem sound_run {l : Leasing} (h : l.Sound) (acts : List Act) : (l.run acts).Sound := by
  induction acts generalizing l with
  | nil => exact h
  | cons act rest ih => exact ih (sound_perform h act)

theorem Reachable.sound {l : Leasing} (h : l.Reachable) : l.Sound := by
  obtain ⟨contents, acts, rfl⟩ := h
  exact sound_run (sound_start contents) acts

/-! ## Closing for good -/

/-- Only leasing opens a reader: without it, what is retired stays all there
is. -/
theorem allRetired_perform {l : Leasing} (h : l.Sound) (hretired : l.AllRetired) {act : Act}
    (hact : act.leasesNothing = true) : (l.perform act).AllRetired := by
  cases act with
  | add source records => exact hretired
  | acquire source => simp [Act.leasesNothing] at hact
  | release id =>
      by_cases hid : id ∈ l.leases
      · rw [perform_release hid]
        intro j e he
        rcases Sourcing.entryAt?_change_eq_some _ he with ⟨_, hold⟩ | ⟨e₀, _, hold, rfl⟩
        · exact hretired j e hold
        · exact hretired id e₀ hold
      · rw [perform_release_of_notMem hid]; exact hretired
  | close => rw [perform_close]; exact (Sourcing.Sound.close h).2.2.2

theorem allRetired_run {l : Leasing} (h : l.Sound) (hretired : l.AllRetired) (acts : List Act)
    (hacts : ∀ act ∈ acts, act.leasesNothing = true) : (l.run acts).AllRetired := by
  induction acts generalizing l with
  | nil => exact hretired
  | cons act rest ih =>
      have hact := hacts act (List.mem_cons_self ..)
      exact ih (sound_perform h act) (allRetired_perform h hretired hact)
        fun a ha => hacts a (List.mem_cons_of_mem _ ha)

/-- The times a reader was closed: once if nobody can use it any more. -/
theorem count_closed {l : Leasing} (h : l.Sound) {id : LeaseId} {e : CacheEntry MemoryReader}
    (he : l.sourcing.entryAt? id = some e) :
    l.sourcing.outside.closed.count e.reader.serial =
      if e.retired = true ∧ l.leases.count id = 0 then 1 else 0 := by
  rw [h.balanced.closings id e he, ← h.balanced.counts id e he]
  by_cases hr : e.retired = true <;> simp [CacheEntry.isSpent, hr]

theorem isClosed_iff {l : Leasing} (h : l.Sound) {id : LeaseId} {e : CacheEntry MemoryReader}
    (he : l.sourcing.entryAt? id = some e) :
    l.sourcing.outside.isClosed e.reader = true ↔ e.retired = true ∧ l.leases.count id = 0 := by
  have hcount := count_closed h he
  rw [MemoryIndex.isClosed, List.contains_iff_mem, ← List.count_pos_iff, hcount]
  split
  · next hspent => simpa using hspent
  · next hspent => simpa using hspent

/-! ## What clients rely on -/

/-- No step takes an entry away. -/
theorem keeps_perform {l : Leasing} (h : l.Sound) (act : Act) :
    Sourcing.Keeps l.sourcing (l.perform act).sourcing := by
  cases act with
  | add source records => exact fun _ e he => ⟨e, he, rfl⟩
  | acquire source =>
      rcases Sourcing.Sound.acquire h source with
        ⟨_, t, hcall, _, _, hkeeps⟩ | ⟨_, lease, t, _, hcall, _, _, _, _, _, hkeeps⟩
      · rw [perform_acquire_none hcall]; exact hkeeps
      · rw [perform_acquire_some hcall]; exact hkeeps
  | release id =>
      by_cases hid : id ∈ l.leases
      · rw [perform_release hid]; exact Sourcing.keeps_change _ _ fun _ => rfl
      · rw [perform_release_of_notMem hid]; exact Sourcing.Keeps.refl _
  | close => rw [perform_close]; exact (Sourcing.Sound.close h).2.2.1

/-- Fetching through a reader that is not closed comes to what the reader has. -/
theorem on_fetch {index : MemoryIndex} {reader : MemoryReader}
    (h : index.isClosed reader = false) (numbers : List Int) :
    Call.on (MemoryIndex.fetch reader numbers) index = (reader.fetch numbers, index) := by
  unfold MemoryIndex.fetch
  rw [Call.on_bind_ok (Call.on_get index)]
  simp only [h, Bool.false_eq_true, if_false]
  cases reader.fetch numbers <;> rfl

/-- A reader itself never reports that it is closed. -/
theorem fetch_ne_readerClosed (reader : MemoryReader) (source : String) (numbers : List Int) :
    reader.fetch numbers ≠ .error (.readerClosed source) := by
  induction numbers with
  | nil => simp [MemoryReader.fetch]
  | cons number rest ih =>
      unfold MemoryReader.fetch
      cases itemAt? reader.records number with
      | none => simp
      | some record =>
          cases hrest : reader.fetch rest with
          | ok records => simp [Except.map]
          | error fault =>
              rw [hrest] at ih
              simpa [hrest, Except.map] using ih

/-- What the clients of a cache rely on. -/
structure Reliable (l : Leasing) : Prop where
  /-- An entry counts the leases of it that have not ended. -/
  counts : ∀ id e, l.sourcing.entryAt? id = some e → e.leases = l.leases.count id
  /-- A reader is closed if and only if its entry is retired and not leased. -/
  closed_iff : ∀ id e, l.sourcing.entryAt? id = some e →
    (l.sourcing.outside.isClosed e.reader = true ↔ e.retired = true ∧ l.leases.count id = 0)
  /-- No reader is closed twice. -/
  closed_once : ∀ id e, l.sourcing.entryAt? id = some e →
    l.sourcing.outside.closed.count e.reader.serial ≤ 1
  /-- No cached entry is retired. -/
  cached : ∀ source id, l.sourcing.cache.cached.get? source = some id →
    ∃ e, l.sourcing.entryAt? id = some e ∧ e.retired = false
  /-- A leased reader is there and not closed, and fetching through it never
  fails for being closed. -/
  leased : ∀ id ∈ l.leases, ∃ e, l.sourcing.entryAt? id = some e ∧
    l.sourcing.outside.isClosed e.reader = false ∧
    ∀ numbers source, (Call.on (MemoryIndex.fetch e.reader numbers) l.sourcing.outside).1 ≠
      .error (.readerClosed source)
  /-- Leasing gives a reader exactly if the source is known, with exactly the
  records that the source holds at that moment, and keeps it in its place. -/
  acquired : ∀ source, ∃ lease? t,
    Call.on (Sourcing.acquire? MemoryIndex.adapter source) l.sourcing = (.ok lease?, t) ∧
    lease?.map (fun lease => lease.reader.records) =
      (l.sourcing.outside.contents.get? source).map SourceContent.records ∧
    ∀ lease, lease? = some lease → ∃ e, t.entryAt? lease.id = some e ∧ e.reader = lease.reader
  /-- Ending a lease and closing the cache do not fail. -/
  answers : (∀ id ∈ l.leases,
      (Call.on (Sourcing.release MemoryIndex.adapter id) l.sourcing).1 = .ok ()) ∧
    (Call.on (Sourcing.close MemoryIndex.adapter) l.sourcing).1 = .ok ()
  /-- Every reader that was opened stays in its place. -/
  kept : ∀ act, Sourcing.Keeps l.sourcing (l.perform act).sourcing
  /-- Once the cache is closed and all leases have ended, with none taken in
  between, every reader that was ever opened was closed, exactly once. -/
  closed_for_good : ∀ later : List Act, (∀ act ∈ later, act.leasesNothing = true) →
    (l.run (.close :: later)).leases = [] →
    ∀ id e, (l.run (.close :: later)).sourcing.entryAt? id = some e →
      (l.run (.close :: later)).sourcing.outside.isClosed e.reader = true ∧
      (l.run (.close :: later)).sourcing.outside.closed.count e.reader.serial = 1

/-- Nothing is left open by a cache that was closed. -/
theorem closed_of_close {l : Leasing} (h : l.Sound) {later : List Act}
    (hlater : ∀ act ∈ later, act.leasesNothing = true)
    (hleases : (l.run (.close :: later)).leases = []) {id : LeaseId}
    {e : CacheEntry MemoryReader}
    (he : (l.run (.close :: later)).sourcing.entryAt? id = some e) :
    (l.run (.close :: later)).sourcing.outside.isClosed e.reader = true ∧
      (l.run (.close :: later)).sourcing.outside.closed.count e.reader.serial = 1 := by
  have hsound : (l.run (.close :: later)).Sound := sound_run h _
  have hclosed : (l.perform .close).AllRetired := by
    rw [perform_close]
    exact (Sourcing.Sound.close h).2.2.2
  have hretired : (l.run (.close :: later)).AllRetired :=
    allRetired_run (sound_perform h .close) hclosed later hlater
  have hcount : (l.run (.close :: later)).leases.count id = 0 := by rw [hleases]; rfl
  constructor
  · exact (isClosed_iff hsound he).2 ⟨hretired id e he, hcount⟩
  · rw [count_closed hsound he, if_pos ⟨hretired id e he, hcount⟩]

/-- **Leases and closings agree after every history**, whatever the sources
hold at its start. -/
theorem reliable_after_history (contents : OrderedMap String SourceContent) (acts : List Act) :
    ((start contents).run acts).Reliable := by
  have h : ((start contents).run acts).Sound := sound_run (sound_start contents) acts
  refine ⟨h.balanced.counts, fun id e he => isClosed_iff h he, ?_, ?_, ?_, ?_, ⟨?_, ?_⟩,
    keeps_perform h, fun later hlater hleases id e he => closed_of_close h hlater hleases he⟩
  · intro id e he
    rw [count_closed h he]
    split <;> omega
  · intro source id hid
    obtain ⟨e, he, hr, _⟩ := (h.tracked source id).1 hid
    exact ⟨e, he, hr⟩
  · intro id hid
    obtain ⟨e, he⟩ := h.balanced.placed id hid
    have hopen := Sourcing.Sound.isClosed_eq_false h hid he
    refine ⟨e, he, hopen, fun numbers source => ?_⟩
    rw [on_fetch hopen]
    exact fetch_ne_readerClosed e.reader source numbers
  · intro source
    rcases Sourcing.Sound.acquire h source with
      ⟨hunknown, t, hcall, _⟩ | ⟨content, lease, t, hcontent, hcall, _, hrecords, hplace, _⟩
    · exact ⟨none, t, hcall, by rw [hunknown]; rfl, fun _ hnone => by cases hnone⟩
    · refine ⟨some lease, t, hcall, by rw [hcontent, Option.map_some, hrecords]; rfl, ?_⟩
      intro lease' hlease
      obtain rfl := Option.some.inj hlease
      exact hplace
  · intro id _
    rw [Sourcing.on_release]
  · rw [Sourcing.on_close]

end Leasing

end PipeQuery
