import PipeQuery.Proofs.ClockTimes
import PipeQuery.Proofs.Interleavings
import PipeQuery.Proofs.Matches
import PipeQuery.Proofs.MillisKept
import PipeQuery.Stage.TimeChart

/-!
# Milliseconds follow real time

What orders records is their milliseconds, and these come of two roundings and a cut toward zero,
which can be off by one.  None of the three turns an order around, and the sign is the same for all
of them; so the earlier of two instants never has the greater milliseconds, whatever the offsets of
the clocks that showed them.

* `millisOfMicros_mono`, `signedUnits_mono`: the magnitudes, and then both sides of the epoch.
* `Timestamp.OnClock.millis_le_millis`, `millis_le_iff`: the milliseconds of two times.
* `inTime_iff_rank_le`: a record may come behind another by its rank if and only if that is so in
  real time, or both are of one millisecond.
* `keeps_real_time`: so a reader, a merge and the spans of a chart keep real time.
-/

namespace PipeQuery

/-! ## Both sides of the epoch -/

/-- Rounding twice and cutting keeps order. -/
theorem millisOfMicros_mono : Monotone millisOfMicros := by
  intro m n h
  have hseconds : roundToSignificand (m * unitsPerOne) 1000000 ≤
      roundToSignificand (n * unitsPerOne) 1000000 :=
    roundToSignificand_mono (by decide) (by decide)
      (Nat.mul_le_mul_right _ (Nat.mul_le_mul_right _ h))
  exact Nat.div_le_div_right (roundToSignificand_mono Nat.one_pos Nat.one_pos
    (Nat.mul_le_mul_right _ (Nat.mul_le_mul_right _ hseconds)))

/-- What is done to magnitudes in order is in order with their signs. -/
theorem Binary64.signedUnits_mono {f : Nat → Nat} (hf : Monotone f) {a b : Int} (h : a ≤ b) :
    signedUnits (decide (a < 0)) (f a.natAbs) ≤ signedUnits (decide (b < 0)) (f b.natAbs) := by
  unfold signedUnits
  by_cases ha : a < 0
  · by_cases hb : b < 0
    · -- before the epoch, the later instant has the lesser magnitude
      have hmagnitude : f b.natAbs ≤ f a.natAbs := hf (by omega)
      simp only [ha, hb, decide_true, if_true]
      omega
    · simp only [ha, hb, decide_true, decide_false, if_true, Bool.false_eq_true, if_false]
      omega
  · have hb : ¬b < 0 := by omega
    have hmagnitude : f a.natAbs ≤ f b.natAbs := hf (by omega)
    simp only [ha, hb, decide_false, Bool.false_eq_true, if_false]
    omega

/-! ## Times -/

namespace Timestamp

namespace OnClock

variable {t u : Timestamp}

theorem natAbs_instant_le (h : t.OnClock) : t.instant.natAbs ≤ 2 ^ 43 * 1000000 := by
  have hdays := Date.bounds_of_yearInRange h.year
  have hoffset := h.offset
  unfold microsPerDay microsPerSecond at hdays hoffset
  unfold instant
  omega

/-- The milliseconds are what the seconds, times a thousand, are cut to. -/
theorem truncate?_eq (h : t.OnClock) :
    (Binary64.ofRatio t.instant 1000000 * Binary64.ofInt 1000).truncate? = some t.millis := by
  rw [truncate?_seconds h.natAbs_instant_le, millis_eq h.natAbs_instant_le]

/-- **The earlier instant never has the greater milliseconds.** -/
theorem millis_le_millis (ht : t.OnClock) (hu : u.OnClock) (h : t.instant ≤ u.instant) :
    t.millis ≤ u.millis := by
  rw [millis_eq ht.natAbs_instant_le, millis_eq hu.natAbs_instant_le]
  exact Binary64.signedUnits_mono millisOfMicros_mono h

theorem instant_lt_of_millis_lt (ht : t.OnClock) (hu : u.OnClock) (h : t.millis < u.millis) :
    t.instant < u.instant := by
  by_contra hle
  exact absurd (hu.millis_le_millis ht (Int.not_lt.1 hle)) (Int.not_le.2 h)

/-- Milliseconds are the order of real time, but for what happens within one of them. -/
theorem millis_le_iff (ht : t.OnClock) (hu : u.OnClock) :
    t.millis ≤ u.millis ↔ t.millis = u.millis ∨ t.instant < u.instant := by
  constructor
  · intro hle
    rcases Int.lt_or_eq_of_le hle with hlt | heq
    · exact .inr (ht.instant_lt_of_millis_lt hu hlt)
    · exact .inl heq
  · rintro (heq | hearlier)
    · exact heq.le
    · exact ht.millis_le_millis hu hearlier.le

end OnClock

end Timestamp

/-! ## Records -/

/-- The times of the records are times that clocks can show. -/
def OnClocks (l : List Record) : Prop := ∀ r ∈ l, ∀ t, r.timestamp = some t → t.OnClock

/-- The second record may come behind the first: in the direction of the order it is later in real
time, or both are of one millisecond, or the second has no time. -/
def InTime (descending : Bool) (a b : Record) : Prop :=
  match a.timestamp, b.timestamp with
  | some t, some u =>
    t.millis = u.millis ∨ if descending then u.instant < t.instant else t.instant < u.instant
  | none, some _ => False
  | _, none => True

section Records

variable {l : List Record} {descending : Bool}

/-- **Ranks are the order of real time**, but for what happens within a millisecond. -/
theorem inTime_iff_rank_le {a b : Record} (ha : ∀ t, a.timestamp = some t → t.OnClock)
    (hb : ∀ t, b.timestamp = some t → t.OnClock) :
    InTime descending a b ↔
      SortOrder.rank ⟨.timestamp, descending⟩ a ≤ SortOrder.rank ⟨.timestamp, descending⟩ b := by
  unfold InTime SortOrder.rank SortOrder.rankOf Record.millis?
  cases hta : a.timestamp with
  | none =>
      cases htb : b.timestamp with
      | none => simp
      | some u => simp [(SortOrder.directed_lt_top _ _).ne]
  | some t =>
      cases htb : b.timestamp with
      | none => simp
      | some u =>
          have ht := ha t hta
          have hu := hb u htb
          simp only [Option.map_some, SortOrder.directed_le_iff]
          cases descending with
          | true =>
              simp only [if_true]
              rw [hu.millis_le_iff ht, eq_comm]
          | false =>
              simp only [Bool.false_eq_true, if_false]
              exact (ht.millis_le_iff hu).symm

theorem pairwise_inTime_iff (h : OnClocks l) :
    l.Pairwise (InTime descending) ↔
      AscendingBy (SortOrder.rank ⟨.timestamp, descending⟩) l :=
  List.Pairwise.iff_of_mem fun ha hb => inTime_iff_rank_le (h _ ha) (h _ hb)

end Records

/-! ## Readers -/

namespace MemoryReader

variable {reader : MemoryReader}

theorem mem_of_itemAt? {α : Type} {items : List α} {position : Int} {a : α}
    (h : itemAt? items position = some a) : a ∈ items := by
  unfold itemAt? at h
  split at h
  · split at h
    · cases h
    · exact List.mem_of_getElem? h
  · exact List.mem_of_getElem? h

/-- A record is found with the time that it has in its source. -/
theorem onClocks_shown (h : OnClocks reader.records) {query : String} {range : Option TimeRange}
    {hits : List Hit} (hhits : ∀ hit ∈ hits, hit ∈ reader.hits query range) :
    OnClocks (hits.map reader.shown) := by
  intro r hr t ht
  obtain ⟨hit, hhit, rfl⟩ := List.mem_map.1 hr
  obtain ⟨stored, hstored, -⟩ := mem_hits (hhits hit hhit)
  refine h stored (mem_of_itemAt? hstored) t ?_
  rw [← ht]
  simp [shown, recordOf, hstored]

/-- **What a reader gives by instant** is in the order of real time. -/
theorem pairwise_inTime_search (h : OnClocks reader.records) (query : String)
    (range : Option TimeRange) (limit : Option Int) (descending : Bool) :
    ((reader.search query range limit (some ⟨.timestamp, descending⟩)).map reader.shown).Pairwise
      (InTime descending) := by
  have hclocks : OnClocks
      ((reader.search query range limit (some ⟨.timestamp, descending⟩)).map reader.shown) := by
    refine onClocks_shown h fun hit hhit => mem_search (fun o ho => ?_) hhit
    rw [← Option.some.inj ho]
    rfl
  have hsorted : AscendingBy (reader.rankOfHit ⟨.timestamp, descending⟩)
      (orderHits reader.records (some ⟨.timestamp, descending⟩) (reader.hits query range)) := by
    rw [orderHits_eq_sortBy rfl]
    exact pairwise_sortBy _ _
  rw [pairwise_inTime_iff hclocks, AscendingBy, List.pairwise_map]
  cases limit with
  | none => exact hsorted
  | some stop => exact hsorted.sublist (List.take_sublist _ _)

end MemoryReader

/-! ## Merges -/

/-- **What is merged by instant**, of sources in the order of real time, is in that order. -/
theorem MultiStream.drain_inTime {σ : Type} {sources : List (HitStream σ)}
    {queues : List (List Record)} {w : World σ} {descending : Bool}
    (hserve : Serve sources w.state queues) (hclocks : ∀ queue ∈ queues, OnClocks queue)
    (htime : ∀ queue ∈ queues, queue.Pairwise (InTime descending)) :
    ∃ merged t,
      (start sources (some (Comparator.byTimestamp descending))).drain.run w =
        ((.ok merged, t), w) ∧
      merged.Perm queues.flatten ∧ merged.Pairwise (InTime descending) := by
  have hranked : (Comparator.byTimestamp descending).RankedBy
      (SortOrder.rank ⟨.timestamp, descending⟩) queues.flatten :=
    fun a _ b _ => Comparator.byTimestamp_eq_gt descending a b
  have hyields : Yields w.state (sortBy (SortOrder.rank ⟨.timestamp, descending⟩) queues.flatten)
      (start sources (some (Comparator.byTimestamp descending))) :=
    yields_merged hserve rfl rfl hranked fun queue hqueue =>
      (pairwise_inTime_iff (hclocks queue hqueue)).1 (htime queue hqueue)
  obtain ⟨t, hdrain⟩ := hyields.drain (by
    rw [length_sortBy]
    exact Serve.length_le_left hserve)
  have hmerged : OnClocks (sortBy (SortOrder.rank ⟨.timestamp, descending⟩) queues.flatten) := by
    intro r hr
    obtain ⟨queue, hqueue, hmem⟩ := List.mem_flatten.1 ((mem_sortBy _).1 hr)
    exact hclocks queue hqueue r hmem
  exact ⟨_, t, hdrain, perm_sortBy _ _, (pairwise_inTime_iff hmerged).2 (pairwise_sortBy _ _)⟩

/-! ## Spans -/

/-- The later instant is in the same span or in a later one. -/
theorem TimeChartStage.spanStart_mono (s : TimeChartStage) : Monotone s.spanStart := by
  intro m n h
  rcases s.spanMillis.eq_zero_or_pos with hzero | hpos
  · simp [spanStart, hzero]
  · have hquotient : m / (s.spanMillis : Int) ≤ n / (s.spanMillis : Int) :=
      Int.ediv_le_ediv (by omega) h
    exact Int.mul_le_mul_of_nonneg_right hquotient (Int.natCast_nonneg _)

/-! ## Real time -/

/-- **Milliseconds keep real time**, with whatever offsets times are shown.  They are always made,
and the later instant has no lesser ones, so it is counted in no earlier span.  What a reader gives
by instant is in the order of real time, but for what happens within a millisecond, and so is what
is merged of sources in that order; nothing is lost in the merge.  This holds of all times that
clocks can show, which all times of loaded records are. -/
theorem keeps_real_time (descending : Bool) :
    (∀ t u : Timestamp, t.OnClock → u.OnClock → t.instant ≤ u.instant →
      (Binary64.ofRatio t.instant 1000000 * Binary64.ofInt 1000).truncate? = some t.millis ∧
      (Binary64.ofRatio u.instant 1000000 * Binary64.ofInt 1000).truncate? = some u.millis ∧
      t.millis ≤ u.millis ∧ ∀ s : TimeChartStage, s.spanStart t.millis ≤ s.spanStart u.millis) ∧
    (∀ (reader : MemoryReader) (query : String) (range : Option TimeRange) (limit : Option Int),
      OnClocks reader.records →
      ((reader.search query range limit (some ⟨.timestamp, descending⟩)).map
        reader.shown).Pairwise (InTime descending)) ∧
    (∀ (σ : Type) (sources : List (HitStream σ)) (queues : List (List Record)) (w : World σ),
      MultiStream.Serve sources w.state queues →
      (∀ queue ∈ queues, OnClocks queue ∧ queue.Pairwise (InTime descending)) →
      ∃ merged t,
        (MultiStream.start sources (some (Comparator.byTimestamp descending))).drain.run w =
          ((.ok merged, t), w) ∧
        merged.Perm queues.flatten ∧ merged.Pairwise (InTime descending)) ∧
    ∀ (item : Datum) (source : String) (r : Record), Record.ofDatum item source = .ok r →
      ∀ t, r.timestamp = some t → t.OnClock := by
  refine ⟨fun t u ht hu h => ?_, fun reader query range limit hclocks => ?_,
    fun σ sources queues w hserve hqueues => ?_, fun item source r hr t => ?_⟩
  · have hmillis := ht.millis_le_millis hu h
    exact ⟨ht.truncate?_eq, hu.truncate?_eq, hmillis, fun s => s.spanStart_mono hmillis⟩
  · exact MemoryReader.pairwise_inTime_search hclocks query range limit descending
  · exact MultiStream.drain_inTime hserve (fun queue hqueue => (hqueues queue hqueue).1)
      fun queue hqueue => (hqueues queue hqueue).2
  · exact Record.onClock_of_ofDatum hr

/-- One and a half milliseconds before the epoch, on a clock two hours ahead of UTC. -/
def justBefore : Timestamp := ⟨7199998500, 7200000000⟩

/-- Half a millisecond after it, on a clock one hour behind. -/
def justAfter : Timestamp := ⟨-3599999500, -3600000000⟩

/-- A record of a time. -/
def stamped (raw : String) (t : Timestamp) : Record :=
  { (default : Record) with raw := raw, timestamp := some t }

/-- The later of the two is the first in its source. -/
def epochReader : MemoryReader :=
  ⟨0, "app", [stamped "after" justAfter, stamped "before" justBefore], 1⟩

/-- Each of the two in its own source. -/
def epochLists : List (String × List Record) :=
  [("app", [stamped "after" justAfter]), ("db", [stamped "before" justBefore])]

/-- An item with the later time. -/
def epochItem : Datum := .mapping [(.text "timestamp", .text "1969-12-31T23:00:00.0005-01:00")]

/-- Around the epoch, on clocks with different offsets. -/
theorem keeps_real_time_around_epoch :
    (justBefore.OnClock ∧ justAfter.OnClock ∧ justBefore.instant ≤ justAfter.instant ∧
      justBefore.millis ≤ justAfter.millis) ∧
    (OnClocks epochReader.records ∧
      ((epochReader.search "" none (some 2) (some ⟨.timestamp, false⟩)).map
        epochReader.shown).Pairwise (InTime false)) ∧
    (∃ merged t, (MultiStream.start
        (epochLists.map fun l => MultiStream.listStream 1 l.1 l.2)
        (some (Comparator.byTimestamp false))).drain.run (⟨(), []⟩ : World Unit) =
          ((.ok merged, t), ⟨(), []⟩) ∧
      merged.Perm (epochLists.map fun l => l.2.map (MultiStream.givenBy l.1)).flatten ∧
      merged.Pairwise (InTime false)) ∧
    ∃ r, Record.ofDatum epochItem "app" = .ok r ∧ r.timestamp = some justAfter ∧
      justAfter.OnClock := by
  have hbefore : justBefore.OnClock := ⟨by decide, by decide⟩
  have hafter : justAfter.OnClock := ⟨by decide, by decide⟩
  have hclocks : OnClocks epochReader.records := by
    simp [OnClocks, epochReader, stamped, hbefore, hafter]
  obtain ⟨htimes, hreader, hmerge, hloaded⟩ := keeps_real_time false
  refine ⟨⟨hbefore, hafter, by decide, (htimes _ _ hbefore hafter (by decide)).2.2.1⟩,
    ⟨hclocks, hreader _ _ _ _ hclocks⟩, ?_, ?_⟩
  · refine hmerge Unit _ _ _ (MultiStream.serve_listStreams Nat.one_pos () epochLists) ?_
    intro queue hqueue
    rcases (by simpa [epochLists] using hqueue) with rfl | rfl
    · simp [OnClocks, MultiStream.givenBy, stamped, hafter]
    · simp [OnClocks, MultiStream.givenBy, stamped, hbefore]
  · have htime : (Record.ofDatum epochItem "app").toOption.map Record.timestamp =
        some (some justAfter) := by decide +kernel
    cases hitem : Record.ofDatum epochItem "app" with
    | error fault => simp [hitem, Except.toOption] at htime
    | ok r =>
        have hr : r.timestamp = some justAfter := by
          simpa [hitem, Except.toOption] using htime
        exact ⟨r, rfl, hr, hloaded _ _ _ hitem _ hr⟩

end PipeQuery
