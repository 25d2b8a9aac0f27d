import PipeQuery.Proofs.CacheCalls

/-!
# The books of a reader cache

Two invariants of a cache over records in memory, for a list of the leases that
have not ended (a lease is told by the place of its entry, so an entry that is
leased twice stands in the list twice).

* `Balanced`: every entry counts its leases, its reader was closed once if
  nobody has a use for it and never otherwise, readers are told apart by their
  serials, and each shows its source as it was at its generation.
* `Tracked`: the entries that are cached are those that are not retired, each
  under the source of its reader.

Every change of `PipeQuery.Proofs.CacheCalls` keeps the first one
(`Balanced.change` and below it); the second one is broken between the moment
when an entry is retired and the moment when it is forgotten.
-/

namespace PipeQuery

/-- The reader shows its source as it was at its generation: the records are
those of the source as long as nothing was added to it. -/
def MemoryIndex.IsSnapshot (index : MemoryIndex) (reader : MemoryReader) : Prop :=
  ∃ content, index.contents.get? reader.source = some content ∧
    reader.generation ≤ content.generation ∧
    (reader.generation = content.generation → reader.records = content.records)

namespace Sourcing

/-- The entries of a cache agree with the leases that have not ended. -/
structure Balanced (s : MemorySourcing) (leases : List LeaseId) : Prop where
  counts : ∀ id e, s.entryAt? id = some e → e.leases = leases.count id
  placed : ∀ id ∈ leases, ∃ e, s.entryAt? id = some e
  closings : ∀ id e, s.entryAt? id = some e →
    s.outside.closed.count e.reader.serial = if e.isSpent then 1 else 0
  distinct : ∀ i j e f, s.entryAt? i = some e → s.entryAt? j = some f →
    e.reader.serial = f.reader.serial → i = j
  serials : ∀ id e, s.entryAt? id = some e → e.reader.serial < s.outside.openings
  closedSerials : ∀ n ∈ s.outside.closed, n < s.outside.openings
  snapshots : ∀ id e, s.entryAt? id = some e → s.outside.IsSnapshot e.reader

/-- What is cached for a source is its one entry that is not retired. -/
def Tracked (s : MemorySourcing) : Prop :=
  ∀ source id, s.cache.cached.get? source = some id ↔
    ∃ e, s.entryAt? id = some e ∧ e.retired = false ∧ e.reader.source = source

/-! ## What a change leaves alone -/

section Change

variable {s : MemorySourcing} {id : LeaseId} {e : CacheEntry MemoryReader}
  (f : CacheEntry MemoryReader → CacheEntry MemoryReader)

theorem entryAt?_change (s : MemorySourcing) (id j : LeaseId) :
    (s.change id f).entryAt? j = if j = id then (s.entryAt? j).map f else s.entryAt? j := by
  cases he : s.entryAt? id with
  | none =>
      rw [change_of_none f he]
      split
      · next h => rw [h, he]; rfl
      · rfl
  | some e =>
      rw [change_of_entry f he]
      show (s.cache.entries.modify id f)[j]? = _
      rw [List.getElem?_modify]
      by_cases h : j = id
      · simp [h, entryAt?]
      · simp [h, Ne.symm h, entryAt?]

@[simp]
theorem contents_change (s : MemorySourcing) (id : LeaseId) :
    (s.change id f).outside.contents = s.outside.contents := by
  unfold change
  split
  · rfl
  · simp only
    split <;> rfl

@[simp]
theorem openings_change (s : MemorySourcing) (id : LeaseId) :
    (s.change id f).outside.openings = s.outside.openings := by
  unfold change
  split
  · rfl
  · simp only
    split <;> rfl

@[simp]
theorem cached_change (s : MemorySourcing) (id : LeaseId) :
    (s.change id f).cache.cached = s.cache.cached := by
  unfold change
  split <;> rfl

theorem closed_change (he : s.entryAt? id = some e) :
    (s.change id f).outside.closed =
      if (f e).isSpent then s.outside.closed ++ [e.reader.serial] else s.outside.closed := by
  rw [change_of_entry f he]
  simp only
  split <;> rfl

/-- An entry after a change is that entry before it, or the changed one. -/
theorem entryAt?_change_eq_some {j : LeaseId} {e' : CacheEntry MemoryReader}
    (h : (s.change id f).entryAt? j = some e') :
    (j ≠ id ∧ s.entryAt? j = some e') ∨
      ∃ e, j = id ∧ s.entryAt? id = some e ∧ e' = f e := by
  rw [entryAt?_change] at h
  by_cases hj : j = id
  · subst hj
    rw [if_pos rfl, Option.map_eq_some_iff] at h
    obtain ⟨e, he, rfl⟩ := h
    exact Or.inr ⟨e, rfl, he, rfl⟩
  · rw [if_neg hj] at h
    exact Or.inl ⟨hj, h⟩

/-- The same, if it is known what the entry was before. -/
theorem entryAt?_change_of_entry {j : LeaseId} {e' : CacheEntry MemoryReader}
    (he : s.entryAt? id = some e) (h : (s.change id f).entryAt? j = some e') :
    (j ≠ id ∧ s.entryAt? j = some e') ∨ (j = id ∧ e' = f e) := by
  rcases entryAt?_change_eq_some f h with hold | ⟨e₀, hj, hold, rfl⟩
  · exact Or.inl hold
  · obtain rfl := Option.some.inj (hold.symm.trans he)
    exact Or.inr ⟨hj, rfl⟩

theorem mem_closed_change {n : Nat} (h : n ∈ (s.change id f).outside.closed) :
    n ∈ s.outside.closed ∨ ∃ e, s.entryAt? id = some e ∧ n = e.reader.serial := by
  cases he : s.entryAt? id with
  | none => rw [change_of_none f he] at h; exact Or.inl h
  | some e =>
      rw [closed_change f he] at h
      split at h
      · rcases List.mem_append.1 h with h | h
        · exact Or.inl h
        · exact Or.inr ⟨e, rfl, List.mem_singleton.1 h⟩
      · exact Or.inl h

end Change

/-! ## The balance is kept -/

namespace Balanced

variable {s : MemorySourcing} {leases leases' : List LeaseId} {id : LeaseId}
  {e : CacheEntry MemoryReader}

/-- A leased entry is still of use. -/
theorem isSpent_eq_false (h : s.Balanced leases) (he : s.entryAt? id = some e)
    (hid : id ∈ leases) : e.isSpent = false := by
  have hpos : 0 < leases.count id := List.count_pos_iff.2 hid
  have hleases : e.leases ≠ 0 := by rw [h.counts id e he]; omega
  simp [CacheEntry.isSpent, hleases]

/-- **A change of one entry keeps the balance** if the entry is of use until
then, keeps its reader, and counts the leases that there are afterwards. -/
theorem change {f : CacheEntry MemoryReader → CacheEntry MemoryReader} (h : s.Balanced leases)
    (he : s.entryAt? id = some e) (hused : e.isSpent = false) (hreader : (f e).reader = e.reader)
    (hleases : (f e).leases = leases'.count id)
    (hothers : ∀ j, j ≠ id → leases'.count j = leases.count j) :
    (s.change id f).Balanced leases' where
  counts := by
    intro j e' he'
    rcases entryAt?_change_of_entry f he he' with ⟨hj, hold⟩ | ⟨rfl, rfl⟩
    · rw [hothers j hj]
      exact h.counts j e' hold
    · exact hleases
  placed := by
    intro j hj
    by_cases hji : j = id
    · subst hji
      exact ⟨f e, by rw [entryAt?_change, if_pos rfl, he, Option.map_some]⟩
    · have hmem : j ∈ leases := by
        rw [← List.count_pos_iff, ← hothers j hji]
        exact List.count_pos_iff.2 hj
      obtain ⟨e', he'⟩ := h.placed j hmem
      exact ⟨e', by rw [entryAt?_change, if_neg hji]; exact he'⟩
  closings := by
    intro j e' he'
    rw [closed_change f he]
    have hbefore : s.outside.closed.count e.reader.serial = 0 := by
      rw [h.closings id e he, hused]; rfl
    rcases entryAt?_change_of_entry f he he' with ⟨hj, hold⟩ | ⟨rfl, rfl⟩
    · -- the closings of another reader do not change: it has another serial
      have hne : e'.reader.serial ≠ e.reader.serial := fun hs =>
        hj (h.distinct j id e' e hold he hs)
      rw [← h.closings j e' hold]
      split
      · rw [List.count_append, List.count_singleton]
        simp [Ne.symm hne]
      · rfl
    · rw [hreader]
      split <;> simp [List.count_append, hbefore]
  distinct := by
    have hkept : ∀ j e', (s.change id f).entryAt? j = some e' →
        ∃ e₀, s.entryAt? j = some e₀ ∧ e₀.reader = e'.reader := by
      intro j e' he'
      rcases entryAt?_change_of_entry f he he' with ⟨_, hold⟩ | ⟨rfl, rfl⟩
      · exact ⟨e', hold, rfl⟩
      · exact ⟨e, he, hreader.symm⟩
    intro i j e₁ e₂ h₁ h₂ hs
    obtain ⟨d₁, hd₁, hr₁⟩ := hkept i e₁ h₁
    obtain ⟨d₂, hd₂, hr₂⟩ := hkept j e₂ h₂
    exact h.distinct i j d₁ d₂ hd₁ hd₂ (by rw [hr₁, hr₂, hs])
  serials := by
    intro j e' he'
    rw [openings_change]
    rcases entryAt?_change_of_entry f he he' with ⟨_, hold⟩ | ⟨rfl, rfl⟩
    · exact h.serials j e' hold
    · rw [hreader]
      exact h.serials _ e he
  closedSerials := by
    intro n hn
    rw [openings_change]
    rcases mem_closed_change f hn with hn | ⟨e₀, he₀, rfl⟩
    · exact h.closedSerials n hn
    · exact h.serials id e₀ he₀
  snapshots := by
    intro j e' he'
    rw [MemoryIndex.IsSnapshot, contents_change]
    rcases entryAt?_change_of_entry f he he' with ⟨_, hold⟩ | ⟨rfl, rfl⟩
    · exact h.snapshots j e' hold
    · rw [hreader]
      exact h.snapshots _ e he

theorem retire (h : s.Balanced leases) (he : s.entryAt? id = some e) (hr : e.retired = false) :
    (s.change id .retire).Balanced leases :=
  h.change he (by simp [CacheEntry.isSpent, hr]) rfl (h.counts id e he) (fun _ _ => rfl)

theorem lend (h : s.Balanced leases) (he : s.entryAt? id = some e) (hr : e.retired = false) :
    (s.change id .lend).Balanced (id :: leases) := by
  refine h.change he (by simp [CacheEntry.isSpent, hr]) rfl ?_ ?_
  · rw [List.count_cons_self, ← h.counts id e he]
    rfl
  · intro j hj
    exact List.count_cons_of_ne (Ne.symm hj)

theorem giveBack (h : s.Balanced leases) (hid : id ∈ leases) :
    (s.change id .giveBack).Balanced (leases.erase id) := by
  obtain ⟨e, he⟩ := h.placed id hid
  refine h.change he (h.isSpent_eq_false he hid) rfl ?_ ?_
  · rw [List.count_erase_self, ← h.counts id e he]
    rfl
  · intro j hj
    exact List.count_erase_of_ne hj

/-- What is cached has no part in the balance. -/
theorem withCached (h : s.Balanced leases) (cached : OrderedMap String LeaseId) :
    Balanced { s with cache := { s.cache with cached := cached } } leases :=
  ⟨h.counts, h.placed, h.closings, h.distinct, h.serials, h.closedSerials, h.snapshots⟩

theorem forget (h : s.Balanced leases) (source : String) : (s.forget source).Balanced leases :=
  h.withCached _

theorem counted (h : s.Balanced leases) : s.counted.Balanced leases where
  counts := h.counts
  placed := h.placed
  closings := h.closings
  distinct := h.distinct
  serials := fun id e he => Nat.lt_succ_of_lt (h.serials id e he)
  closedSerials := fun n hn => Nat.lt_succ_of_lt (h.closedSerials n hn)
  snapshots := h.snapshots

/-- The entries once a reader is opened. -/
theorem entryAt?_opened (s : MemorySourcing) (source : String) (content : SourceContent)
    (j : LeaseId) :
    (s.opened source content).entryAt? j =
      if j = s.cache.entries.length then some ⟨s.newReader source content, 0, false⟩
      else s.entryAt? j := by
  show (s.cache.entries ++ [_])[j]? = _
  rw [List.getElem?_append]
  unfold entryAt?
  rcases Nat.lt_trichotomy j s.cache.entries.length with hlt | heq | hgt
  · rw [if_pos hlt, if_neg (Nat.ne_of_lt hlt)]
  · simp [heq]
  · have hpos : 0 < j - s.cache.entries.length := Nat.sub_pos_of_lt hgt
    rw [if_neg (Nat.lt_asymm hgt), if_neg (Nat.ne_of_gt hgt),
      List.getElem?_eq_none_iff.2 (by simpa using Nat.succ_le_of_lt hpos),
      List.getElem?_eq_none_iff.2 (Nat.le_of_lt hgt)]

/-- An entry that is there was opened before. -/
theorem lt_of_entryAt? (he : s.entryAt? id = some e) : id < s.cache.entries.length :=
  (List.getElem?_eq_some_iff.1 he).1

theorem entryAt?_opened_eq_some {source : String} {content : SourceContent} {j : LeaseId}
    {e' : CacheEntry MemoryReader} (h : (s.opened source content).entryAt? j = some e') :
    (j = s.cache.entries.length ∧ e' = ⟨s.newReader source content, 0, false⟩) ∨
      (j ≠ s.cache.entries.length ∧ s.entryAt? j = some e') := by
  rw [entryAt?_opened] at h
  split at h
  · next hj => exact Or.inl ⟨hj, (Option.some.inj h).symm⟩
  · next hj => exact Or.inr ⟨hj, h⟩

theorem opened (h : s.Balanced leases) {source : String} {content : SourceContent}
    (hcontent : s.outside.contents.get? source = some content) :
    (s.opened source content).Balanced leases where
  counts := by
    intro j e' he'
    rcases entryAt?_opened_eq_some he' with ⟨rfl, rfl⟩ | ⟨_, hold⟩
    · -- nobody leases what was not there
      symm
      refine List.count_eq_zero.2 fun hmem => ?_
      obtain ⟨e₀, he₀⟩ := h.placed _ hmem
      exact Nat.lt_irrefl _ (lt_of_entryAt? he₀)
    · exact h.counts j e' hold
  placed := by
    intro j hj
    obtain ⟨e', he'⟩ := h.placed j hj
    refine ⟨e', ?_⟩
    rw [entryAt?_opened, if_neg (Nat.ne_of_lt (lt_of_entryAt? he'))]
    exact he'
  closings := by
    intro j e' he'
    rcases entryAt?_opened_eq_some he' with ⟨rfl, rfl⟩ | ⟨_, hold⟩
    · -- the serial is new, so nothing with it was closed
      refine List.count_eq_zero.2 fun hmem => ?_
      exact Nat.lt_irrefl _ (h.closedSerials _ hmem)
    · exact h.closings j e' hold
  distinct := by
    intro i j e₁ e₂ h₁ h₂ hs
    rcases entryAt?_opened_eq_some h₁ with ⟨rfl, rfl⟩ | ⟨_, hold₁⟩ <;>
      rcases entryAt?_opened_eq_some h₂ with ⟨rfl, rfl⟩ | ⟨_, hold₂⟩
    · rfl
    · have hlt := h.serials j e₂ hold₂
      rw [← hs] at hlt
      exact absurd hlt (Nat.lt_irrefl _)
    · have hlt := h.serials i e₁ hold₁
      rw [hs] at hlt
      exact absurd hlt (Nat.lt_irrefl _)
    · exact h.distinct i j e₁ e₂ hold₁ hold₂ hs
  serials := by
    intro j e' he'
    rcases entryAt?_opened_eq_some he' with ⟨rfl, rfl⟩ | ⟨_, hold⟩
    · exact Nat.lt_succ_self _
    · exact Nat.lt_succ_of_lt (h.serials j e' hold)
  closedSerials := fun n hn => Nat.lt_succ_of_lt (h.closedSerials n hn)
  snapshots := by
    intro j e' he'
    rcases entryAt?_opened_eq_some he' with ⟨rfl, rfl⟩ | ⟨_, hold⟩
    · exact ⟨content, hcontent, Nat.le_refl _, fun _ => rfl⟩
    · exact h.snapshots j e' hold

end Balanced

end Sourcing

end PipeQuery
