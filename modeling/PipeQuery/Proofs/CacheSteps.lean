import PipeQuery.Proofs.CacheBooks
import Mathlib.Data.List.Nodup

/-!
# The steps of a reader cache

`Sourcing.Sound` joins the two invariants of `PipeQuery.Proofs.CacheBooks`.
Leasing, ending a lease, closing the cache and adding records all keep it, and
each of these theorems also says what its step does: `Sound.acquire`,
`Sound.release`, `Sound.close` and `Sound.add`.

Nothing ever takes an entry away, so whoever leased a reader still finds it in
its place later (`Keeps`).
-/

namespace PipeQuery

namespace Sourcing

/-- Both invariants of a cache of which `leases` have not ended. -/
structure Sound (s : MemorySourcing) (leases : List LeaseId) : Prop where
  balanced : s.Balanced leases
  tracked : s.Tracked

/-- Every entry is still there, with the same reader. -/
def Keeps (s t : MemorySourcing) : Prop :=
  ∀ id e, s.entryAt? id = some e → ∃ e', t.entryAt? id = some e' ∧ e'.reader = e.reader

theorem Keeps.refl (s : MemorySourcing) : Keeps s s := fun _ e he => ⟨e, he, rfl⟩

theorem Keeps.trans {s t u : MemorySourcing} (h : Keeps s t) (h' : Keeps t u) : Keeps s u := by
  intro id e he
  obtain ⟨e', he', hr'⟩ := h id e he
  obtain ⟨e'', he'', hr''⟩ := h' id e' he'
  exact ⟨e'', he'', hr''.trans hr'⟩

theorem keeps_change (s : MemorySourcing) (id : LeaseId)
    {f : CacheEntry MemoryReader → CacheEntry MemoryReader} (hf : ∀ e, (f e).reader = e.reader) :
    Keeps s (s.change id f) := by
  intro j e he
  rw [entryAt?_change, he]
  split
  · exact ⟨f e, rfl, hf e⟩
  · exact ⟨e, rfl, rfl⟩

theorem keeps_opened (s : MemorySourcing) (source : String) (content : SourceContent) :
    Keeps s (s.opened source content) := by
  intro j e he
  refine ⟨e, ?_, rfl⟩
  rw [Balanced.entryAt?_opened, if_neg (Nat.ne_of_lt (Balanced.lt_of_entryAt? he))]
  exact he

/-! ## What is cached -/

theorem tracked_change {s : MemorySourcing} (h : s.Tracked) (id : LeaseId)
    {f : CacheEntry MemoryReader → CacheEntry MemoryReader}
    (hretired : ∀ e, (f e).retired = e.retired) (hreader : ∀ e, (f e).reader = e.reader) :
    (s.change id f).Tracked := by
  intro source j
  rw [cached_change, h source j, entryAt?_change]
  by_cases hj : j = id
  · rw [if_pos hj]
    constructor
    · rintro ⟨e, he, hr, hs⟩
      exact ⟨f e, by rw [he, Option.map_some], by rw [hretired, hr], by rw [hreader, hs]⟩
    · rintro ⟨e', he', hr, hs⟩
      obtain ⟨e, he, rfl⟩ := Option.map_eq_some_iff.1 he'
      exact ⟨e, he, by rw [← hretired, hr], by rw [← hreader, hs]⟩
  · rw [if_neg hj]

/-- An entry that is retired and forgotten leaves the others cached. -/
theorem tracked_retire_forget {s : MemorySourcing} (h : s.Tracked) {source : String}
    {id : LeaseId} {e : CacheEntry MemoryReader}
    (hid : s.cache.cached.get? source = some id) (he : s.entryAt? id = some e) :
    ((s.change id .retire).forget source).Tracked := by
  obtain ⟨_, he', _, hsource⟩ := (h source id).1 hid
  obtain rfl : _ = e := Option.some.inj (he'.symm.trans he)
  intro source' j
  show ((s.change id .retire).cache.cached.erase source).get? source' = some j ↔
    ∃ e, (s.change id .retire).entryAt? j = some e ∧ _
  rw [OrderedMap.get?_erase, cached_change, entryAt?_change]
  constructor
  · intro hj
    by_cases hs : source' = source
    · rw [if_pos hs] at hj
      exact absurd hj (by simp)
    · rw [if_neg hs] at hj
      obtain ⟨e₁, he₁, hr₁, hs₁⟩ := (h source' j).1 hj
      have hne : j ≠ id := by
        rintro rfl
        obtain rfl : e₁ = _ := Option.some.inj (he₁.symm.trans he)
        exact hs (hs₁.symm.trans hsource)
      exact ⟨e₁, by rw [if_neg hne, he₁], hr₁, hs₁⟩
  · rintro ⟨e₁, he₁, hr₁, hs₁⟩
    by_cases hj : j = id
    · rw [if_pos hj] at he₁
      obtain ⟨e₀, _, rfl⟩ := Option.map_eq_some_iff.1 he₁
      exact absurd hr₁ (by simp [CacheEntry.retire])
    · rw [if_neg hj] at he₁
      have hcached := (h source' j).2 ⟨e₁, he₁, hr₁, hs₁⟩
      have hne : source' ≠ source := by
        rintro rfl
        exact hj (Option.some.inj (hcached.symm.trans hid))
      rw [if_neg hne, hcached]

theorem tracked_opened {s : MemorySourcing} (h : s.Tracked) {source : String}
    (hnone : s.cache.cached.get? source = none) (content : SourceContent) :
    (s.opened source content).Tracked := by
  intro source' j
  show (s.cache.cached.insert source s.cache.entries.length).get? source' = some j ↔ _
  rw [OrderedMap.get?_insert, Balanced.entryAt?_opened]
  by_cases hs : source' = source
  · subst hs
    rw [if_pos rfl]
    constructor
    · intro hj
      obtain rfl := Option.some.inj hj
      exact ⟨⟨s.newReader source' content, 0, false⟩, by rw [if_pos rfl], rfl, rfl⟩
    · rintro ⟨e, he, hr, hsource⟩
      by_cases hj : j = s.cache.entries.length
      · rw [hj]
      · rw [if_neg hj] at he
        have hcached := (h source' j).2 ⟨e, he, hr, hsource⟩
        rw [hnone] at hcached
        exact absurd hcached (by simp)
  · rw [if_neg hs, h source' j]
    constructor
    · rintro ⟨e, he, hr, hsource⟩
      refine ⟨e, ?_, hr, hsource⟩
      rw [if_neg (Nat.ne_of_lt (Balanced.lt_of_entryAt? he)), he]
    · rintro ⟨e, he, hr, hsource⟩
      by_cases hj : j = s.cache.entries.length
      · rw [if_pos hj] at he
        obtain rfl := Option.some.inj he
        exact absurd hsource.symm hs
      · rw [if_neg hj] at he
        exact ⟨e, he, hr, hsource⟩

/-- No entry is cached twice. -/
theorem nodup_values_of_tracked {s : MemorySourcing} (h : s.Tracked) :
    s.cache.cached.values.Nodup := by
  have hentries : s.cache.cached.entries.Nodup := s.cache.cached.nodup.of_map
  refine hentries.map_on ?_
  rintro ⟨k₁, id⟩ h₁ ⟨k₂, id'⟩ h₂ (rfl : id = id')
  obtain ⟨e₁, he₁, _, hs₁⟩ := (h k₁ id).1 (OrderedMap.get?_eq_some_iff.2 h₁)
  obtain ⟨e₂, he₂, _, hs₂⟩ := (h k₂ id).1 (OrderedMap.get?_eq_some_iff.2 h₂)
  obtain rfl := Option.some.inj (he₁.symm.trans he₂)
  rw [← hs₁, ← hs₂]

theorem mem_values_iff (cached : OrderedMap String LeaseId) (id : LeaseId) :
    id ∈ cached.values ↔ ∃ source, cached.get? source = some id := by
  simp only [OrderedMap.values, List.mem_map, OrderedMap.get?_eq_some_iff]
  constructor
  · rintro ⟨⟨source, _⟩, hmem, rfl⟩
    exact ⟨source, hmem⟩
  · rintro ⟨source, hmem⟩
    exact ⟨_, hmem, rfl⟩

/-! ## Each step is sound -/

namespace Sound

variable {s : MemorySourcing} {leases : List LeaseId}

/-- What is cached can be looked at. -/
theorem cachedEntry (h : s.Sound leases) (source : String) :
    ∀ id, s.cache.cached.get? source = some id → ∃ e, s.entryAt? id = some e := by
  intro id hid
  obtain ⟨e, he, _, _⟩ := (h.tracked source id).1 hid
  exact ⟨e, he⟩

/-- A cleared source leaves a sound cache that holds nothing for it. -/
theorem cleared (h : s.Sound leases) {source : String} {t : MemorySourcing}
    (ht : s.Cleared source t) :
    t.Sound leases ∧ t.cache.cached.get? source = none ∧
      t.outside.contents = s.outside.contents ∧ Keeps s t := by
  rcases ht with ⟨hnone, rfl⟩ | ⟨id, e, hid, he, _, rfl⟩
  · exact ⟨h, hnone, rfl, Keeps.refl t⟩
  · obtain ⟨e', he', hr, _⟩ := (h.tracked source id).1 hid
    obtain rfl := Option.some.inj (he'.symm.trans he)
    refine ⟨⟨(h.balanced.retire he hr).forget source, tracked_retire_forget h.tracked hid he⟩,
      ?_, contents_change _ s id, keeps_change s id fun _ => rfl⟩
    show ((s.change id .retire).cache.cached.erase source).get? source = none
    rw [OrderedMap.get?_erase, if_pos rfl]

theorem counted (h : s.Sound leases) : s.counted.Sound leases :=
  ⟨h.balanced.counted, h.tracked⟩

/-- Lending an entry that is not retired. -/
theorem lend (h : s.Sound leases) {id : LeaseId} {e : CacheEntry MemoryReader}
    (he : s.entryAt? id = some e) (hr : e.retired = false) :
    (s.change id .lend).Sound (id :: leases) :=
  ⟨h.balanced.lend he hr, tracked_change h.tracked id (fun _ => rfl) fun _ => rfl⟩

/-- **Leasing.**  A source that is not known is not leased, and any other is:
the reader has exactly the records that the source holds at that moment. -/
theorem acquire (h : s.Sound leases) (source : String) :
    (s.outside.contents.get? source = none ∧
      ∃ t, Call.on (Sourcing.acquire? MemoryIndex.adapter source) s = (.ok none, t) ∧
        t.Sound leases ∧ t.outside.contents = s.outside.contents ∧ Keeps s t) ∨
    ∃ content lease t, s.outside.contents.get? source = some content ∧
      Call.on (Sourcing.acquire? MemoryIndex.adapter source) s = (.ok (some lease), t) ∧
      lease.reader.source = source ∧ lease.reader.records = content.records ∧
      (∃ e, t.entryAt? lease.id = some e ∧ e.reader = lease.reader) ∧
      t.Sound (lease.id :: leases) ∧ t.outside.contents = s.outside.contents ∧ Keeps s t := by
  rcases acquire?_cases source (h.cachedEntry source) with
    ⟨id, e, hid, he, hshows, hcall⟩ | ⟨t, hcleared, hopen⟩
  · obtain ⟨e', he', hr, hsource⟩ := (h.tracked source id).1 hid
    obtain rfl := Option.some.inj (he'.symm.trans he)
    -- the reader is of the newest generation, so it has the newest records
    obtain ⟨content, hcontent, _, hrecords⟩ := h.balanced.snapshots id _ he
    rw [hsource] at hcontent
    rw [MemoryIndex.Shows, hcontent, Option.map_some, Option.some.injEq] at hshows
    exact Or.inr ⟨content, _, _, hcontent, hcall, hsource, hrecords hshows.symm,
      ⟨CacheEntry.lend _, by rw [entryAt?_change, if_pos rfl, he, Option.map_some], rfl⟩,
      h.lend he hr, contents_change _ s id, keeps_change s id fun _ => rfl⟩
  · obtain ⟨ht, hnone, hcontents, hkeeps⟩ := h.cleared hcleared
    rw [hcontents] at hopen
    rcases hopen with ⟨hunknown, hcall⟩ | ⟨content, hcontent, hcall⟩
    · exact Or.inl ⟨hunknown, t.counted, hcall, ht.counted, hcontents, hkeeps⟩
    · have hnew : (t.opened source content).entryAt? t.cache.entries.length =
          some ⟨t.newReader source content, 0, false⟩ := by
        rw [Balanced.entryAt?_opened, if_pos rfl]
      have hopened : (t.opened source content).Sound leases :=
        ⟨ht.balanced.opened (by rw [hcontents]; exact hcontent),
          tracked_opened ht.tracked hnone content⟩
      refine Or.inr ⟨content, _, _, hcontent, hcall, rfl, rfl,
        ⟨CacheEntry.lend _, by rw [entryAt?_change, if_pos rfl, hnew, Option.map_some], rfl⟩,
        hopened.lend hnew rfl, ?_, ?_⟩
      · rw [contents_change]
        exact hcontents
      · exact hkeeps.trans ((keeps_opened t source content).trans
          (keeps_change _ _ fun _ => rfl))

/-- **Ending a lease.** -/
theorem release (h : s.Sound leases) {id : LeaseId} (hid : id ∈ leases) :
    Call.on (Sourcing.release MemoryIndex.adapter id) s = (.ok (), s.change id .giveBack) ∧
      (s.change id .giveBack).Sound (leases.erase id) :=
  ⟨on_release id s, h.balanced.giveBack hid,
    tracked_change h.tracked id (fun _ => rfl) fun _ => rfl⟩

/-- Retiring entries one after the other, each of them once. -/
theorem retiredAll (h : s.Balanced leases) : ∀ ids : List LeaseId, ids.Nodup →
    (∀ id ∈ ids, ∃ e, s.entryAt? id = some e ∧ e.retired = false) →
    (s.retiredAll ids).Balanced leases ∧
      ∀ j, (s.retiredAll ids).entryAt? j =
        if j ∈ ids then (s.entryAt? j).map .retire else s.entryAt? j := by
  intro ids
  induction ids generalizing s with
  | nil => intro _ _; exact ⟨h, fun j => by simp [Sourcing.retiredAll]⟩
  | cons id rest ih =>
      intro hnodup hopen
      rw [List.nodup_cons] at hnodup
      obtain ⟨e, he, hr⟩ := hopen id (List.mem_cons_self ..)
      have hrest : ∀ j ∈ rest,
          ∃ e, (s.change id .retire).entryAt? j = some e ∧ e.retired = false := by
        intro j hj
        have hne : j ≠ id := fun hji => hnodup.1 (hji ▸ hj)
        obtain ⟨e', he', hr'⟩ := hopen j (List.mem_cons_of_mem _ hj)
        exact ⟨e', by rw [entryAt?_change, if_neg hne, he'], hr'⟩
      obtain ⟨hbalanced, hentries⟩ := ih (h.retire he hr) hnodup.2 hrest
      refine ⟨hbalanced, fun j => ?_⟩
      show ((s.change id .retire).retiredAll rest).entryAt? j = _
      rw [hentries j, entryAt?_change]
      by_cases hj : j = id
      · subst hj
        rw [if_neg hnodup.1, if_pos rfl, if_pos (List.mem_cons_self ..)]
      · by_cases hmem : j ∈ rest <;> simp [hj, hmem]

/-- **Closing the cache.**  Every entry is still there and retired
afterwards. -/
theorem close (h : s.Sound leases) :
    Call.on (Sourcing.close MemoryIndex.adapter) s = (.ok (), s.closedDown) ∧
      s.closedDown.Sound leases ∧
      Keeps s s.closedDown ∧ ∀ id e, s.closedDown.entryAt? id = some e → e.retired = true := by
  obtain ⟨hbalanced, hentries⟩ :=
    retiredAll h.balanced s.cache.cached.values (nodup_values_of_tracked h.tracked) (by
      intro id hid
      obtain ⟨source, hsource⟩ := (mem_values_iff _ id).1 hid
      obtain ⟨e, he, hr, _⟩ := (h.tracked source id).1 hsource
      exact ⟨e, he, hr⟩)
  have hretired : ∀ id e, s.closedDown.entryAt? id = some e → e.retired = true := by
    intro id e he
    have he' : (s.retiredAll s.cache.cached.values).entryAt? id = some e := he
    rw [hentries id] at he'
    split at he'
    · obtain ⟨e₀, _, rfl⟩ := Option.map_eq_some_iff.1 he'
      rfl
    · next hmem =>
        -- what is not cached was retired before
        by_contra hr
        rw [Bool.not_eq_true] at hr
        exact hmem ((mem_values_iff _ id).2 ⟨_, (h.tracked _ id).2 ⟨e, he', hr, rfl⟩⟩)
  have hkeeps : Keeps s s.closedDown := by
    intro id e he
    show ∃ e', (s.retiredAll s.cache.cached.values).entryAt? id = some e' ∧ _
    rw [hentries id, he]
    split
    · exact ⟨e.retire, rfl, rfl⟩
    · exact ⟨e, rfl, rfl⟩
  refine ⟨on_close s, ⟨hbalanced.withCached .empty, ?_⟩, hkeeps, hretired⟩
  intro source id
  show (OrderedMap.empty : OrderedMap String LeaseId).get? source = some id ↔ _
  rw [OrderedMap.get?_empty]
  constructor
  · intro hnone
    exact absurd hnone (by simp)
  · rintro ⟨e, he, hr, _⟩
    rw [hretired id e he] at hr
    exact absurd hr (by simp)

/-- **Adding records** makes every reader of the source one of an older
generation. -/
theorem add (h : s.Sound leases) (source : String) (records : List Record) :
    Sound { s with outside := s.outside.add source records } leases := by
  refine ⟨⟨h.balanced.counts, h.balanced.placed, h.balanced.closings, h.balanced.distinct,
    h.balanced.serials, h.balanced.closedSerials, ?_⟩, h.tracked⟩
  intro id e he
  obtain ⟨content, hcontent, hle, hrecords⟩ := h.balanced.snapshots id e he
  show ∃ content, ((s.outside.contents.update source ⟨[], 0⟩ fun content =>
    ⟨content.records ++ records, content.generation + 1⟩).get? e.reader.source) = some content ∧ _
  rw [OrderedMap.update, OrderedMap.get?_insert]
  by_cases hs : e.reader.source = source
  · rw [if_pos hs, ← hs, hcontent]
    refine ⟨_, rfl, Nat.le_succ_of_le hle, fun heq => ?_⟩
    exact absurd heq (Nat.ne_of_lt (Nat.lt_succ_of_le hle))
  · rw [if_neg hs]
    exact ⟨content, hcontent, hle, hrecords⟩

/-- A leased reader is not closed. -/
theorem isClosed_eq_false (h : s.Sound leases) {id : LeaseId} {e : CacheEntry MemoryReader}
    (hid : id ∈ leases) (he : s.entryAt? id = some e) : s.outside.isClosed e.reader = false := by
  have hcount := h.balanced.closings id e he
  rw [h.balanced.isSpent_eq_false he hid] at hcount
  have hnot : e.reader.serial ∉ s.outside.closed := List.count_eq_zero.1 hcount
  simpa [MemoryIndex.isClosed] using hnot

end Sound

end Sourcing

end PipeQuery
