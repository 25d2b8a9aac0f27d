import PipeQuery.Proofs.StreamBooks

/-!
# Looking ahead

To tell whether there is a next record a stream over several sources takes it and
keeps it.  That is never seen in what it gives, and it costs at most one record of
each source: a merge owes the next record of the source that gave last, and takes
it only when it is asked again.

* `MultiStream.Books.peek_again`: looking twice comes to the same as looking once.
* `MultiStream.Books.asksOnly_next`: without the looks, the calls of `next` are
  answered in the same way.
* `MultiStream.Books.oneAhead`: what has been drawn of the sources, which may fail,
  and how many batches that took.
* `MultiStream.lookahead`: all of it, for any sequence of calls.
-/

namespace PipeQuery

namespace MultiStream

open HitStream (Draws Begins Dependable SameSource)

variable {σ : Type}

/-! ## Looking is not seen -/

section Looks

variable {starts : List (HitStream σ)} {queues : List (List Record)}
  {comparator : Option Comparator} {log : List (Nat × Record)} {held : Held} {failed : Bool}
  {heard : List (Ask × Reply)} {s t : MultiStream σ} {w v : World σ} {record : Option Record}

/-- Looking twice comes to the same as looking once. -/
theorem Books.peek_again (h : Books starts queues comparator log held failed s)
    (hpeek : s.peek.run w = ((.ok record, t), v)) : t.peek.run v = ((.ok record, t), v) := by
  obtain ⟨answer, t', v', hpeek', hlooked⟩ := h.peek w
  obtain ⟨hanswer, rfl⟩ := Prod.mk.inj (hpeek'.symm.trans hpeek)
  obtain ⟨rfl, rfl⟩ := Prod.mk.inj hanswer
  cases hlooked with
  | record r hpending _ => exact peek_of_pending hpending v'
  | ended _ hover _ _ => exact hover v'

/-- Sources that never fail have no faults. -/
theorem Books.peek_ok (h : Books starts queues comparator log held failed s)
    (hdependable : ∀ start ∈ starts, Dependable start.fetch) (w : World σ) :
    ∃ record t v, s.peek.run w = ((.ok record, t), v) := by
  obtain ⟨answer, t, v, hpeek, hlooked⟩ := h.peek w
  cases hlooked with
  | record r _ _ => exact ⟨some r, t, v, hpeek⟩
  | ended _ _ _ _ => exact ⟨none, t, v, hpeek⟩
  | fault _ _ _ _ hfails _ => exact absurd hdependable hfails

/-- The second stream is the first one, or what looking at its next record leaves
of it. -/
def LookedInto (s : MultiStream σ) (w : World σ) (t : MultiStream σ) (v : World σ) : Prop :=
  (t = s ∧ v = w) ∨ ∃ record, s.peek.run w = ((.ok record, t), v)

/-- Both show the same next record, and are the same after that. -/
theorem LookedInto.peek (hlooked : LookedInto s w t v)
    (h : Books starts queues comparator log held failed s) {u : MultiStream σ} {x : World σ}
    (hpeek : s.peek.run w = ((.ok record, u), x)) : t.peek.run v = ((.ok record, u), x) := by
  rcases hlooked with ⟨rfl, rfl⟩ | ⟨record', hpeek'⟩
  · exact hpeek
  · obtain ⟨hanswer, rfl⟩ := Prod.mk.inj (hpeek'.symm.trans hpeek)
    obtain ⟨hrecord, rfl⟩ := Prod.mk.inj hanswer
    exact h.peek_again hpeek

/-- The calls of `next`, with their replies. -/
def nextsIn (heard : List (Ask × Reply)) : List (Ask × Reply) :=
  heard.filter fun h => h.1 = .next

/-- **Looks may be left out**: the calls of `next` are answered in the same way. -/
theorem Kept.nextsIn_askAll (hdependable : ∀ start ∈ starts, Dependable start.fetch)
    (asks : List Ask) (hkept : Kept starts queues comparator heard s)
    (hlooked : LookedInto s w t v) :
    nextsIn ((askAll asks t).run v).1.1 =
      ((askAll (asks.filter fun a => a = .next) s).run w).1.1 := by
  induction asks generalizing heard s w t v with
  | nil => rfl
  | cons a rest ih =>
      obtain ⟨log, held, hlog, hbooks⟩ := hkept
      obtain ⟨record, u, x, hpeek⟩ := hbooks.peek_ok hdependable w
      have hask := run_ask (hlooked.peek hbooks hpeek) a
      have hcons : ((askAll (a :: rest) t).run v).1.1 =
          (a, a.replyTo (.ok record)) :: ((askAll rest (a.leaves u)).run x).1.1 := by
        rw [askAll, StateM.run_bind_of_eq hask]
        rfl
      rw [hcons, nextsIn]
      cases a with
      | hasNext => exact ih ⟨log, held, hlog, hbooks⟩ (Or.inr ⟨record, hpeek⟩)
      | peek => exact ih ⟨log, held, hlog, hbooks⟩ (Or.inr ⟨record, hpeek⟩)
      | next =>
          have hask' := run_ask hpeek .next
          obtain ⟨reply, s', w', hask'', hkept'⟩ :=
            Kept.ask ⟨log, held, hlog, hbooks⟩ .next w
          rw [hask'] at hask''
          obtain ⟨hreply, rfl⟩ := Prod.mk.inj hask''
          obtain ⟨rfl, rfl⟩ := Prod.mk.inj hreply
          have hsame : LookedInto (Ask.next.leaves u) x (Ask.next.leaves u) x := Or.inl ⟨rfl, rfl⟩
          have hrest := ih hkept' hsame
          rw [List.filter_cons_of_pos (by rfl), List.filter_cons_of_pos (by rfl), askAll,
            StateM.run_bind_of_eq hask']
          exact congrArg ((Ask.next, Ask.next.replyTo (.ok record)) :: ·) hrest

end Looks

/-! ## One record ahead -/

/-- What has been drawn of the sources, beside what was given of them: nothing, or
one record more. -/
structure OneAhead (starts : List (HitStream σ)) (queues : List (List Record))
    (log : List (Nat × Record)) (s : MultiStream σ) : Prop where
  length_sources : s.sources.length = starts.length
  /-- The source at a place, of which a first part of its records was given. -/
  source : ∀ place start source queue, starts[place]? = some start →
    s.sources[place]? = some source → queues[place]? = some queue →
    SameSource start source ∧ fromPlace place log <+: queue
  /-- Of each source, at most one record more was drawn. -/
  position : ∀ place source, s.sources[place]? = some source →
    source.position = (fromPlace place log).length ∨
      source.position = (fromPlace place log).length + 1
  /-- Of sources one after the other, one record more of only one of them. -/
  sequential : s.comparator = none → ∀ place source other source',
    s.sources[place]? = some source → s.sources[other]? = some source' →
    source.position = (fromPlace place log).length + 1 →
    source'.position = (fromPlace other log).length + 1 → place = other
  /-- The batches are those that one record more takes. -/
  batches : ∀ place source, s.sources[place]? = some source →
    source.batches ≤ partsFor source.batchSize ((fromPlace place log).length + 1)

section OneAhead

variable {starts : List (HitStream σ)} {queues : List (List Record)}
  {comparator : Option Comparator} {log : List (Nat × Record)} {held : Held} {failed : Bool}
  {heard : List (Ask × Reply)} {s : MultiStream σ}

/-- The position of a source tells what was given of it and what is held of it. -/
theorem Books.position_eq (h : Books starts queues comparator log held failed s) {place : Nat}
    {source : HitStream σ} (hsource : s.sources[place]? = some source) :
    source.position = (fromPlace place log).length + (held place).toList.length ∧
      source.batches = partsFor source.batchSize source.position ∧ 0 < source.batchSize := by
  have hplace : place < queues.length := by
    rw [h.drawn.length_queues, ← h.drawn.length_sources]
    exact (List.getElem?_eq_some_iff.1 hsource).1
  obtain ⟨start, source', queue, _, hsource', _, hdraws⟩ := h.drawn.at hplace
  obtain rfl := Option.some.inj (hsource.symm.trans hsource')
  refine ⟨?_, ?_⟩
  · rw [← hdraws.length_part, drawnBy, List.length_append]
  · obtain ⟨recordOf, hsound, -⟩ := hdraws
    exact ⟨hsound.batches_eq, hsound.batchSize_pos⟩

/-- **Each source is at most one record ahead** of what was given of it, also after
faults. -/
theorem Books.oneAhead (h : Books starts queues comparator log held failed s) :
    OneAhead starts queues log s where
  length_sources := h.drawn.length_sources
  source := by
    intro place start source queue hstart hsource hqueue
    obtain ⟨_, _, hsame, _⟩ := h.drawn.draws place start source queue hstart hsource hqueue
    exact ⟨hsame, h.given_isPrefix hqueue⟩
  position := by
    intro place source hsource
    rw [(h.position_eq hsource).1]
    cases held place with
    | none => exact Or.inl rfl
    | some r => exact Or.inr rfl
  sequential := by
    intro hnone place source other source' hsource hsource' hahead hahead'
    rw [(h.position_eq hsource).1] at hahead
    rw [(h.position_eq hsource').1] at hahead'
    have hcomparator : comparator = none := h.comparator_eq.symm.trans hnone
    subst hcomparator
    have hstanding := h.standing
    generalize s.merge = merge at hstanding
    generalize s.pending = pending at hstanding
    -- one source after the other: at most one record is held
    cases hstanding with
    | idle => simp [holdsNone] at hahead
    | looked held r =>
        have hat : ∀ place : Nat, (Function.update holdsNone held (some r) place).toList.length = 1 →
            place = held := by
          intro place hone
          by_contra hne
          rw [Function.update_of_ne hne] at hone
          cases hone
        rw [hat place (by omega), hat other (by omega)]
  batches := by
    intro place source hsource
    obtain ⟨hposition, hbatches, hsize⟩ := h.position_eq hsource
    have hle : source.position ≤ (fromPlace place log).length + 1 := by
      rw [hposition]
      cases held place <;> simp
    rw [hbatches, partsFor_le_iff hsize]
    exact hle.trans ((partsFor_le_iff hsize).1 le_rfl)

end OneAhead

/-! ## Any sequence of calls -/

/-- **Looking ahead is not seen, and costs at most one record of each source.**
The sources never fail; the stream is a merge by any comparator or takes one source
after the other; and it is asked anything in any order.  Then leaving out all looks
leaves the calls of `next` and their replies as they are; in the state that was
reached, a look shows what `next` gives then, and `has_next` tells whether there is
one; and each source has given its first records and is at most one record ahead of
that, in batches that are no more than this takes. -/
theorem lookahead {starts : List (HitStream σ)} {queues : List (List Record)}
    (h : List.Forall₂ Begins starts queues)
    (hdependable : ∀ start ∈ starts, Dependable start.fetch) (comparator : Option Comparator)
    (asks : List Ask) (w : World σ) :
    ∃ heard s v, (askAll asks (start starts comparator)).run w = ((heard, s), v) ∧
      heard.map Prod.fst = asks ∧
      nextsIn heard =
        ((askAll (asks.filter fun a => a = .next) (start starts comparator)).run w).1.1 ∧
      (∀ v, ∃ record t u x, s.peek.run v = ((.ok record, t), x) ∧
        s.hasNext.run v = ((.ok record.isSome, t), x) ∧
        t.next.run x = ((.ok record, u), x) ∧ s.next.run v = ((.ok record, u), x)) ∧
      ∃ log : List (Nat × Record), log.map Prod.snd = delivered heard ∧
        OneAhead starts queues log s := by
  obtain ⟨heard, s, v, hrun, hasks, log, held, hlog, hbooks⟩ := kept_askAll h comparator asks w
  refine ⟨heard, s, v, hrun, hasks, ?_, fun v => ?_, log, hlog, hbooks.oneAhead⟩
  · have hstart : Kept starts queues comparator [] (start starts comparator) :=
      ⟨[], holdsNone, rfl, books_start h comparator⟩
    have hnexts := hstart.nextsIn_askAll hdependable asks (Or.inl ⟨rfl, rfl⟩) (w := w)
    rwa [hrun] at hnexts
  · obtain ⟨record, t, x, hpeek⟩ := hbooks.peek_ok hdependable v
    exact ⟨record, t, { t with pending := none }, x, hpeek, run_hasNext hpeek,
      run_next (hbooks.peek_again hpeek), run_next hpeek⟩

/-! ### Sources that are lists -/

theorem begins_listStream {batchSize : Nat} (hsize : 0 < batchSize) (collection : String)
    (records : List Record) :
    Begins (listStream batchSize collection records : HitStream σ)
      (records.map (givenBy collection)) :=
  ⟨_, _, _, _, _, rfl, hsize, HitStream.truthful_pure (itemOf records),
    (map_listHits collection records).symm⟩

/-- Five calls, two of which are for a record. -/
theorem lookahead_scoredLists :
    List.Forall₂ Begins
        (scoredLists.map fun l => (listStream 1 l.1 l.2 : HitStream Unit))
        (scoredLists.map fun l => l.2.map (givenBy l.1)) ∧
    (∀ source ∈ scoredLists.map fun l => (listStream 1 l.1 l.2 : HitStream Unit),
      Dependable source.fetch) ∧
    ∃ heard s v, (askAll [.hasNext, .next, .peek, .next, .hasNext]
        (start (scoredLists.map fun l => listStream 1 l.1 l.2)
          (some (Comparator.ofOrder ⟨.score, true⟩)))).run (⟨(), []⟩ : World Unit) =
        ((heard, s), v) ∧
      nextsIn heard = ((askAll [.next, .next]
        (start (scoredLists.map fun l => listStream 1 l.1 l.2)
          (some (Comparator.ofOrder ⟨.score, true⟩)))).run (⟨(), []⟩ : World Unit)).1.1 ∧
      delivered heard = [givenBy "app" (scored "a" 5), givenBy "db" (scored "c" 5)] ∧
      ∃ log : List (Nat × Record), log.map Prod.snd = delivered heard ∧
        OneAhead (scoredLists.map fun l => listStream 1 l.1 l.2)
          (scoredLists.map fun l => l.2.map (givenBy l.1)) log s := by
  have hbegins : List.Forall₂ Begins
      (scoredLists.map fun l => (listStream 1 l.1 l.2 : HitStream Unit))
      (scoredLists.map fun l => l.2.map (givenBy l.1)) := by
    rw [List.forall₂_map_left_iff, List.forall₂_map_right_iff, List.forall₂_same]
    exact fun l _ => begins_listStream Nat.one_pos l.1 l.2
  have hdependable : ∀ source ∈ scoredLists.map fun l => (listStream 1 l.1 l.2 : HitStream Unit),
      Dependable source.fetch := by
    intro source hsource
    obtain ⟨l, -, rfl⟩ := List.mem_map.1 hsource
    exact HitStream.dependable_pure (itemOf l.2)
  obtain ⟨heard, s, v, hrun, -, hnexts, -, log, hlog, hahead⟩ := lookahead hbegins hdependable
    (some (Comparator.ofOrder ⟨.score, true⟩)) [.hasNext, .next, .peek, .next, .hasNext] ⟨(), []⟩
  rw [show ([Ask.hasNext, .next, .peek, .next, .hasNext].filter fun a => a = .next) =
    [.next, .next] from rfl] at hnexts
  have hheard : heard = ((askAll [.hasNext, .next, .peek, .next, .hasNext]
      (start (scoredLists.map fun l => listStream 1 l.1 l.2)
        (some (Comparator.ofOrder ⟨.score, true⟩)))).run (⟨(), []⟩ : World Unit)).1.1 := by
    rw [hrun]
  refine ⟨hbegins, hdependable, heard, s, v, hrun, hnexts, ?_, log, hlog, hahead⟩
  rw [hheard]
  decide +kernel

end MultiStream

end PipeQuery
