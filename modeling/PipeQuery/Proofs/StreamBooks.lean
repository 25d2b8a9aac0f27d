import PipeQuery.Proofs.Asking

/-!
# The books of a stream over several sources

`MultiStream.Books` keeps the log of the records that were given together with
the sources and with what is held of them.  At every moment a source has given the
records that the log has of it, and at most one more, which the stream holds for
later.  How the stream stands with what it holds is one of seven things
(`MultiStream.Standing`), along the steps of the merge.  Faults are a part of
this: a merge that has failed stays at its end for good, with whatever it held.

* `Books.peek`: what looking at the next record comes to (`Looked`), by the
  standing.
* `Books.give`: the record that was looked at goes into the log.
* `Kept.ask`, `kept_askAll`: one call keeps the books, and with it any sequence of calls.
-/

namespace PipeQuery

namespace MultiStream

open HitStream (Draws Begins Dependable)

variable {σ : Type}

/-! ## The heads of a merge that is asked again -/

section Heads

variable {starts : List (HitStream σ)} {queues : List (List Record)} {log : List (Nat × Record)}
  {s : MultiStream σ} {full : Held} {place : Nat}

/-- The head of one source has gone into the log: the source is asked for its next
record, which takes the place of that head. -/
theorem Drawn.replaceHead {heads : List (Nat × Record)}
    (h : Drawn starts s.sources queues (drawnBy log (Function.update full place none)))
    (hmerge : s.merge = .running heads (some place)) (hheads : AreHeads heads full)
    (hsome : full place ≠ none) (hplace : place < queues.length)
    (hknown : Known queues (Function.update full place none)) (hrest : RestGiven queues log full)
    (w : World σ) :
    ∃ outcome t v held, s.currentHeads.run w = ((outcome, t), v) ∧
      HeadsDrawn starts queues log s t outcome held := by
  have hnone : Function.update full place none place = none := Function.update_self ..
  obtain ⟨answer, t, v, hrun, hcases⟩ := h.nextOf hplace w
  have hcurrent : s.currentHeads.run w =
      ((answer.map fun record => MultiStream.replaceHead place record heads, t), v) := by
    unfold MultiStream.currentHeads
    rw [hmerge]
    show (s.nextOf place >>= _).run w = _
    rw [StateM.run_bind_of_eq hrun]
    cases answer <;> rfl
  rcases hcases with ⟨rfl, rfl, rfl, hpart⟩ | ⟨r, sources, rfl, rfl, hdrawn⟩ |
    ⟨fault, rfl, rfl, hpart, hfails⟩
  · refine ⟨_, t, v, _, hcurrent, rfl, h, hknown, ?_, fun _ hfault => by cases hfault⟩
    · intro heads' heq
      obtain rfl := Except.ok.inj heq
      refine ⟨hheads.replace hsome none, fun other hlt hother => ?_⟩
      by_cases hsame : other = place
      · subst hsame
        rwa [drawnBy, hnone, Option.toList_none, List.append_nil] at hpart
      · rw [Function.update_of_ne hsame] at hother
        exact hrest other hlt hother
  · have hdrawn' : Drawn starts sources queues
        (drawnBy log (Function.update full place (some r))) := by
      refine hdrawn.congr fun other => ?_
      rw [← update_drawnBy hnone r other, Function.update_idem]
    have hknown' : Known queues (Function.update full place (some r)) := by
      have hupdated := hknown.update hplace (some r)
      rwa [Function.update_idem] at hupdated
    refine ⟨_, _, v, _, hcurrent, rfl, hdrawn', hknown', ?_, fun _ hfault => by cases hfault⟩
    · intro heads' heq
      obtain rfl := Except.ok.inj heq
      refine ⟨hheads.replace hsome (some r), fun other hlt hother => ?_⟩
      by_cases hsame : other = place
      · subst hsame
        rw [Function.update_self] at hother
        cases hother
      · rw [Function.update_of_ne hsame] at hother
        exact hrest other hlt hother
  · refine ⟨_, t, v, _, hcurrent, rfl, h, hknown, (fun _ heq => by cases heq), ?_⟩
    exact fun _ _ => ⟨not_allGiven_of_drawn hplace hnone hpart, hfails⟩

end Heads

/-! ## Standings -/

/-- How a stream stands with what it holds of its sources: by its comparator, by
how far its merge is, and by the record that was looked at. -/
inductive Standing (queues : List (List Record)) (log : List (Nat × Record)) (failed : Bool) :
    Option Comparator → MergeState → Option Record → Held → Prop
  /-- One source after the other, with nothing held. -/
  | idle {merge : MergeState} : Standing queues log failed none merge none holdsNone
  /-- One source after the other, with a record of one of them. -/
  | looked {merge : MergeState} (place : Nat) (r : Record) :
      Standing queues log failed none merge (some r) (Function.update holdsNone place (some r))
  /-- A merge that was not asked yet. -/
  | notStarted (c : Comparator) (hnot : failed = false) :
      Standing queues log failed (some c) .notStarted none holdsNone
  /-- A merge with its heads, one of which was looked at. -/
  | ready (c : Comparator) {heads : List (Nat × Record)} {held : Held} (place : Nat) (r : Record)
      (hnot : failed = false) (hheads : AreHeads heads held) (hheld : held place = some r)
      (hrest : RestGiven queues log held) :
      Standing queues log failed (some c) (.running heads (some place)) (some r) held
  /-- A merge with its heads, one of which was given. -/
  | gave (c : Comparator) {heads : List (Nat × Record)} {full : Held} (place : Nat)
      (hnot : failed = false) (hplace : place < queues.length) (hheads : AreHeads heads full)
      (hfull : full place ≠ none) (hrest : RestGiven queues log full) :
      Standing queues log failed (some c) (.running heads (some place)) none
        (Function.update full place none)
  /-- A merge at its end. -/
  | finished (c : Comparator) (hnot : failed = false) (hgiven : AllGiven queues log) :
      Standing queues log failed (some c) .finished none holdsNone
  /-- A merge that has failed. -/
  | broken (c : Comparator) (hfailed : failed = true) (held : Held) :
      Standing queues log failed (some c) .finished none held

/-- The log, the sources, and how the stream stands. -/
structure Books (starts : List (HitStream σ)) (queues : List (List Record))
    (comparator : Option Comparator) (log : List (Nat × Record)) (held : Held) (failed : Bool)
    (s : MultiStream σ) : Prop where
  drawn : Drawn starts s.sources queues (drawnBy log held)
  knownLog : ∀ e ∈ log, e.1 < queues.length
  knownHeld : Known queues held
  comparator_eq : s.comparator = comparator
  standing : Standing queues log failed comparator s.merge s.pending held

/-- The stream stays at its end, and changes nothing when it is asked. -/
def Over (s : MultiStream σ) : Prop := ∀ w : World σ, s.peek.run w = ((.ok none, s), w)

/-- What looking at the next record comes to. -/
inductive Looked (starts : List (HitStream σ)) (queues : List (List Record))
    (comparator : Option Comparator) (log : List (Nat × Record)) (failed : Bool) :
    HitStream.Answer → MultiStream σ → Prop
  /-- A record, which is held and not given yet. -/
  | record {t : MultiStream σ} {held : Held} (r : Record) (hpending : t.pending = some r)
      (hbooks : Books starts queues comparator log held failed t) :
      Looked starts queues comparator log failed (.ok (some r)) t
  /-- The end, because all is given or because the merge has failed. -/
  | ended {t : MultiStream σ} {held : Held} (hpending : t.pending = none) (hover : Over t)
      (hend : AllGiven queues log ∨ comparator.isSome ∧ failed = true)
      (hbooks : Books starts queues comparator log held failed t) :
      Looked starts queues comparator log failed (.ok none) t
  /-- A fault in front of the end. -/
  | fault {t : MultiStream σ} {held : Held} (fault : Fault) (hpending : t.pending = none)
      (hleft : ¬ AllGiven queues log) (hbefore : comparator.isSome → failed = false)
      (hfails : ¬ ∀ start ∈ starts, Dependable start.fetch)
      (hbooks : Books starts queues comparator log held true t) :
      Looked starts queues comparator log failed (.error fault) t

section Books

variable {starts : List (HitStream σ)} {queues : List (List Record)}
  {comparator : Option Comparator} {log : List (Nat × Record)} {held : Held} {failed : Bool}
  {s t : MultiStream σ} {w v : World σ}

theorem books_start (h : List.Forall₂ Begins starts queues) (comparator : Option Comparator) :
    Books starts queues comparator [] holdsNone false (start starts comparator) := by
  refine ⟨drawn_of_begins h, fun e he => absurd he List.not_mem_nil, known_holdsNone queues, rfl, ?_⟩
  cases comparator with
  | none => exact .idle
  | some c => exact .notStarted c rfl

/-! ### Looking at the next record -/

theorem peek_of_pending {r : Record} (h : s.pending = some r) (w : World σ) :
    s.peek.run w = ((.ok (some r), s), w) := by
  unfold peek
  rw [h]
  rfl

theorem peek_of_pull_ended (hpending : s.pending = none) (h : s.pull.run w = ((.ok none, t), v)) :
    s.peek.run w = ((.ok none, t), v) := by
  unfold peek
  rw [hpending]
  show (s.pull >>= _).run w = _
  rw [StateM.run_bind_of_eq h]
  rfl

theorem peek_of_pull_failed {fault : Fault} (hpending : s.pending = none)
    (h : s.pull.run w = ((.error fault, t), v)) : s.peek.run w = ((.error fault, t), v) := by
  unfold peek
  rw [hpending]
  show (s.pull >>= _).run w = _
  rw [StateM.run_bind_of_eq h]
  rfl

theorem peek_of_pull_record {r : Record} (hpending : s.pending = none)
    (h : s.pull.run w = ((.ok (some r), t), v)) :
    s.peek.run w = ((.ok (some r), { t with pending := some r }), v) := by
  unfold peek
  rw [hpending]
  show (s.pull >>= _).run w = _
  rw [StateM.run_bind_of_eq h]
  rfl

section Merged

variable {c : Comparator} {heads : List (Nat × Record)}

theorem pull_merged_failed {fault : Fault} (hcomparator : s.comparator = some c)
    (hcurrent : s.currentHeads.run w = ((.error fault, t), v)) :
    s.pull.run w = ((.error fault, { t with merge := .finished }), v) := by
  unfold pull
  rw [hcomparator]
  show (nextMerged c s).run w = _
  unfold nextMerged
  rw [StateM.run_bind_of_eq hcurrent]
  rfl

theorem pull_merged_ended (hcomparator : s.comparator = some c)
    (hcurrent : s.currentHeads.run w = ((.ok heads, t), v)) (hleast : leastHead? c heads = none) :
    s.pull.run w = ((.ok none, { t with merge := .finished }), v) := by
  unfold pull
  rw [hcomparator]
  show (nextMerged c s).run w = _
  unfold nextMerged
  rw [StateM.run_bind_of_eq hcurrent]
  simp only [hleast]
  rfl

theorem pull_merged_head {place : Nat} {r : Record} (hcomparator : s.comparator = some c)
    (hcurrent : s.currentHeads.run w = ((.ok heads, t), v))
    (hleast : leastHead? c heads = some (place, r)) :
    s.pull.run w = ((.ok (some r), { t with merge := .running heads (some place) }), v) := by
  unfold pull
  rw [hcomparator]
  show (nextMerged c s).run w = _
  unfold nextMerged
  rw [StateM.run_bind_of_eq hcurrent]
  simp only [hleast]
  rfl

end Merged

/-- A merge at its end stays there. -/
theorem over_of_finished {c : Comparator} (hcomparator : s.comparator = some c)
    (hmerge : s.merge = .finished) (hpending : s.pending = none) : Over s := by
  intro w
  refine peek_of_pull_ended hpending ?_
  have hcurrent : s.currentHeads.run w = ((.ok [], s), w) := by
    unfold currentHeads
    rw [hmerge]
    rfl
  have hpull := pull_merged_ended hcomparator hcurrent rfl
  rwa [← hmerge] at hpull

/-- One source after the other: looking at the next record when none is held. -/
theorem Books.peek_idle (h : Books starts queues none log holdsNone failed s)
    (hpending : s.pending = none) (w : World σ) :
    ∃ answer t v, s.peek.run w = ((answer, t), v) ∧
      Looked starts queues none log failed answer t := by
  have hpull : s.pull = s.nextInSequence := by
    unfold pull
    rw [h.comparator_eq]
  have hparts : ∀ place, drawnBy log holdsNone place = fromPlace place log := fun place => by
    rw [drawnBy, holdsNone, Option.toList_none, List.append_nil]
  cases hfound : s.sources.findIdx? HitStream.hasNext with
  | none =>
      have hrun : ∀ w : World σ, s.peek.run w = ((.ok none, s), w) := by
        intro w
        refine peek_of_pull_ended hpending ?_
        rw [hpull, nextInSequence, hfound]
        rfl
      refine ⟨_, s, w, hrun w, .ended hpending hrun (Or.inl fun place hplace => ?_) h⟩
      obtain ⟨start, source, queue, _, hsource, hqueue, hdraws⟩ := h.drawn.at hplace
      have hend := List.findIdx?_eq_none_iff.1 hfound source (List.mem_of_getElem? hsource)
      have hall : drawnBy log holdsNone place = queue := by
        by_contra hne
        rw [hdraws.hasNext_iff.2 hne] at hend
        cases hend
      rw [GivenAt, hqueue, ← hall, hparts]
  | some place =>
      have hsource := List.findIdx?_eq_some_iff_getElem.1 hfound
      obtain ⟨hlt, hmore, -⟩ := hsource
      have hplace : place < queues.length := by
        rw [h.drawn.length_queues, ← h.drawn.length_sources]
        exact hlt
      obtain ⟨answer, t, v, hrun, hcases⟩ := h.drawn.nextOf hplace w
      have hnext : s.pull.run w = ((answer, t), v) := by
        rw [hpull, nextInSequence, hfound]
        exact hrun
      rcases hcases with ⟨rfl, rfl, rfl, hpart⟩ | ⟨r, sources, rfl, rfl, hdrawn⟩ |
        ⟨fault, rfl, rfl, hpart, hfails⟩
      · -- the source that was found has more
        obtain ⟨start, source, queue, _, hsource, hqueue, hdraws⟩ := h.drawn.at hplace
        rw [List.getElem?_eq_getElem hlt, Option.some.injEq] at hsource
        rw [hsource, hdraws.hasNext_iff] at hmore
        rw [hqueue, Option.some.injEq] at hpart
        exact absurd hpart.symm hmore
      · exact ⟨_, _, v, peek_of_pull_record hpending hnext,
          .record r rfl ⟨hdrawn.congr (update_drawnBy rfl r), h.knownLog,
            h.knownHeld.update hplace (some r), h.comparator_eq, .looked place r⟩⟩
      · refine ⟨_, t, v, peek_of_pull_failed hpending hnext,
          .fault fault hpending (not_allGiven_of_drawn hplace rfl hpart) (fun heq => by cases heq) hfails
            ⟨h.drawn, h.knownLog, h.knownHeld, h.comparator_eq, ?_⟩⟩
        rw [hpending]
        exact .idle

/-- A merge: looking at the next record, once the heads are drawn. -/
theorem HeadsDrawn.peek {c : Comparator} {outcome : Except Fault (List (Nat × Record))}
    (hcurrent : s.currentHeads.run w = ((outcome, t), v))
    (h : HeadsDrawn starts queues log s t outcome held) (hcomparator : s.comparator = some c)
    (hpending : s.pending = none) (hknownLog : ∀ e ∈ log, e.1 < queues.length) :
    ∃ answer u, s.peek.run w = ((answer, u), v) ∧
      Looked starts queues (some c) log false answer u := by
  have hcomparator' : t.comparator = some c := by rw [h.eq_sources, ← hcomparator]
  have hpending' : t.pending = none := by rw [h.eq_sources, ← hpending]
  rcases outcome with fault | heads
  · obtain ⟨hleft, hfails⟩ := h.fault fault rfl
    refine ⟨_, _, peek_of_pull_failed hpending (pull_merged_failed hcomparator hcurrent),
      .fault fault hpending' hleft (fun _ => rfl) hfails
        ⟨h.drawn, hknownLog, h.known, hcomparator', ?_⟩⟩
    show Standing queues log true (some c) .finished t.pending held
    rw [hpending']
    exact .broken c rfl held
  · obtain ⟨hheads, hrest⟩ := h.heads heads rfl
    cases hleast : leastHead? c heads with
    | none =>
        obtain rfl := leastHead?_eq_none hleast
        have hheld : ∀ place, held place = none := fun place => by
          by_contra hne
          obtain ⟨r, hr⟩ := Option.ne_none_iff_exists'.1 hne
          exact List.not_mem_nil ((hheads place r).2 hr)
        obtain rfl : held = holdsNone := funext hheld
        have hgiven : AllGiven queues log := fun place hplace => hrest place hplace rfl
        refine ⟨_, _, peek_of_pull_ended hpending (pull_merged_ended hcomparator hcurrent hleast),
          .ended hpending' (over_of_finished hcomparator' rfl hpending') (Or.inl hgiven)
            ⟨h.drawn, hknownLog, h.known, hcomparator', ?_⟩⟩
        show Standing queues log false (some c) .finished t.pending holdsNone
        rw [hpending']
        exact .finished c rfl hgiven
    | some least =>
        obtain ⟨place, r⟩ := least
        have hheld : held place = some r := (hheads place r).1 (mem_of_leastHead? hleast)
        exact ⟨_, _, peek_of_pull_record hpending (pull_merged_head hcomparator hcurrent hleast),
          .record r rfl ⟨h.drawn, hknownLog, h.known, hcomparator',
            .ready c place r rfl hheads hheld hrest⟩⟩

/-- **Looking at the next record** comes to one of three things. -/
theorem Books.peek (h : Books starts queues comparator log held failed s) (w : World σ) :
    ∃ answer t v, s.peek.run w = ((answer, t), v) ∧
      Looked starts queues comparator log failed answer t := by
  have hstanding := h.standing
  generalize hmerge : s.merge = merge at hstanding
  generalize hpending : s.pending = pending at hstanding
  cases hstanding with
  | idle => exact h.peek_idle hpending w
  | looked place r =>
      exact ⟨_, s, w, peek_of_pending hpending w, .record r hpending h⟩
  | notStarted c hnot =>
      subst hnot
      have hplaces : ∀ place ∈ List.range s.sources.length,
          place < queues.length ∧ holdsNone place = none := by
        intro place hplace
        rw [h.drawn.length_queues, ← h.drawn.length_sources]
        exact ⟨List.mem_range.1 hplace, rfl⟩
      obtain ⟨outcome, t, v, held, hrun, hcame⟩ := h.drawn.takeHeads
        (List.range s.sources.length) [] areHeads_nil hplaces List.nodup_range h.knownHeld
        (by
          intro place hplace _ hnot
          rw [h.drawn.length_queues, ← h.drawn.length_sources] at hplace
          exact absurd (List.mem_range.2 hplace) hnot) w
      have hcurrent : s.currentHeads.run w = ((outcome, t), v) := by
        unfold currentHeads
        rw [hmerge]
        exact hrun
      obtain ⟨answer, u, hpeek, hlooked⟩ := hcame.peek hcurrent h.comparator_eq hpending h.knownLog
      exact ⟨answer, u, v, hpeek, hlooked⟩
  | ready c place r hnot hheads hheld hrest =>
      exact ⟨_, s, w, peek_of_pending hpending w, .record r hpending h⟩
  | gave c place hnot hplace hheads hfull hrest =>
      subst hnot
      obtain ⟨outcome, t, v, held, hcurrent, hcame⟩ := h.drawn.replaceHead hmerge hheads hfull
        hplace h.knownHeld hrest w
      obtain ⟨answer, u, hpeek, hlooked⟩ := hcame.peek hcurrent h.comparator_eq hpending h.knownLog
      exact ⟨answer, u, v, hpeek, hlooked⟩
  | finished c hnot hgiven =>
      have hover := over_of_finished h.comparator_eq hmerge hpending
      exact ⟨_, s, w, hover w, .ended hpending hover (Or.inl hgiven) h⟩
  | broken c hfailed held =>
      have hover := over_of_finished h.comparator_eq hmerge hpending
      exact ⟨_, s, w, hover w, .ended hpending hover (Or.inr ⟨rfl, hfailed⟩) h⟩

/-- What was given of a source is a first part of its records. -/
theorem Books.given_isPrefix (h : Books starts queues comparator log held failed s) {place : Nat}
    {queue : List Record} (hqueue : queues[place]? = some queue) :
    fromPlace place log <+: queue := by
  obtain ⟨hplace, -⟩ := List.getElem?_eq_some_iff.1 hqueue
  obtain ⟨start, source, queue', _, _, hqueue', hdraws⟩ := h.drawn.at hplace
  obtain rfl := Option.some.inj (hqueue.symm.trans hqueue')
  exact (List.prefix_append _ _).trans hdraws.part_isPrefix

/-! ### Giving the record that was looked at -/

/-- The record that was looked at is held, and its merge has not failed. -/
theorem Books.held_of_pending (h : Books starts queues comparator log held failed s) {r : Record}
    (hpending : s.pending = some r) :
    (∃ place, held place = some r) ∧ (comparator.isSome → failed = false) := by
  have hstanding := h.standing
  rw [hpending] at hstanding
  generalize s.merge = merge at hstanding
  cases hstanding with
  | looked place r => exact ⟨⟨place, Function.update_self ..⟩, fun heq => by cases heq⟩
  | ready c place r hnot hheads hheld hrest => exact ⟨⟨place, hheld⟩, fun _ => hnot⟩

/-- While a record is held, not all is given. -/
theorem Books.not_allGiven (h : Books starts queues comparator log held failed s) {r : Record}
    (hpending : s.pending = some r) : ¬ AllGiven queues log := by
  intro hall
  obtain ⟨⟨place, hheld⟩, -⟩ := h.held_of_pending hpending
  have hplace := h.knownHeld place r hheld
  obtain ⟨start, source, queue, _, _, hqueue, hdraws⟩ := h.drawn.at hplace
  have hgiven : queue = fromPlace place log := Option.some.inj (hqueue.symm.trans (hall place hplace))
  have hlength := hdraws.part_isPrefix.length_le
  rw [drawnBy, hheld, Option.toList_some, List.length_append, ← hgiven, List.length_singleton]
    at hlength
  omega

/-- A record that goes into the log is held no more. -/
theorem drawnBy_give {place : Nat} {r : Record} (hheld : held place = some r) (other : Nat) :
    drawnBy (log ++ [(place, r)]) (Function.update held place none) other =
      drawnBy log held other := by
  rw [drawnBy, drawnBy, fromPlace_append]
  by_cases hother : other = place
  · subst hother
    rw [fromPlace_self, Function.update_self, hheld, Option.toList_none, Option.toList_some,
      List.append_nil]
  · rw [fromPlace_of_ne hother, Function.update_of_ne hother, List.append_nil]

theorem givenAt_snoc {place other : Nat} (hother : other ≠ place) (r : Record)
    (h : GivenAt queues log other) : GivenAt queues (log ++ [(place, r)]) other := by
  rwa [GivenAt, fromPlace_append, fromPlace_of_ne hother, List.append_nil]

/-- **Giving the record that was looked at**: it goes into the log. -/
theorem Books.give (h : Books starts queues comparator log held failed s) {r : Record}
    (hpending : s.pending = some r) :
    ∃ place held', Books starts queues comparator (log ++ [(place, r)]) held' failed
      { s with pending := none } := by
  have hbooks : ∀ place, held place = some r →
      Standing queues (log ++ [(place, r)]) failed comparator s.merge none
        (Function.update held place none) →
      Books starts queues comparator (log ++ [(place, r)]) (Function.update held place none) failed
        { s with pending := none } := by
    intro place hheld hstanding
    have hplace : place < queues.length := h.knownHeld place r hheld
    refine ⟨h.drawn.congr (drawnBy_give hheld), ?_, h.knownHeld.update hplace none, h.comparator_eq,
      hstanding⟩
    intro e he
    rcases List.mem_append.1 he with he | he
    · exact h.knownLog e he
    · rwa [List.mem_singleton.1 he]
  have hstanding := h.standing
  rw [hpending] at hstanding
  generalize s.merge = merge at hstanding hbooks
  cases hstanding with
  | looked place r =>
      refine ⟨place, _, hbooks place (Function.update_self ..) ?_⟩
      rw [Function.update_idem, show Function.update holdsNone place none = holdsNone from
        Function.update_eq_self place holdsNone]
      exact .idle
  | ready c place r hnot hheads hheld hrest =>
      have hfull : held place ≠ none := by
        rw [hheld]
        exact Option.some_ne_none r
      refine ⟨place, _, hbooks place hheld
        (.gave c place hnot (h.knownHeld place r hheld) hheads hfull fun other hlt hother => ?_)⟩
      have hne : other ≠ place := by
        rintro rfl
        exact hfull hother
      exact givenAt_snoc hne r (hrest other hlt hother)

end Books

/-! ## Any sequence of calls -/

theorem delivered_append (heard more : List (Ask × Reply)) :
    delivered (heard ++ more) = delivered heard ++ delivered more :=
  List.filterMap_append

theorem hasFailed_append (heard more : List (Ask × Reply)) :
    hasFailed (heard ++ more) = (hasFailed heard || hasFailed more) :=
  List.any_append

/-- The books are kept, and their log has the records that were given. -/
def Kept (starts : List (HitStream σ)) (queues : List (List Record))
    (comparator : Option Comparator) (heard : List (Ask × Reply)) (s : MultiStream σ) : Prop :=
  ∃ log held, log.map Prod.snd = delivered heard ∧
    Books starts queues comparator log held (hasFailed heard) s

/-- A call leaves a stream without a record that was looked at as it is. -/
theorem Ask.leaves_of_pending {s : MultiStream σ} (h : s.pending = none) (a : Ask) :
    a.leaves s = s := by
  cases a with
  | hasNext => rfl
  | peek => rfl
  | next =>
      show { s with pending := none } = s
      rw [← h]

section Kept

variable {starts : List (HitStream σ)} {queues : List (List Record)}
  {comparator : Option Comparator} {heard : List (Ask × Reply)} {s : MultiStream σ}

/-- Each call keeps the books. -/
theorem Kept.ask (h : Kept starts queues comparator heard s) (a : Ask) (w : World σ) :
    ∃ reply t v, (s.ask a).run w = ((reply, t), v) ∧
      Kept starts queues comparator (heard ++ [(a, reply)]) t := by
  obtain ⟨log, held, hlog, hbooks⟩ := h
  obtain ⟨answer, t, v, hpeek, hlooked⟩ := hbooks.peek w
  refine ⟨_, _, v, run_ask hpeek a, ?_⟩
  rw [Kept, delivered_append, hasFailed_append]
  cases hlooked with
  | @record t held' r hpending hbooks' =>
      have hfailed : hasFailed [(a, a.replyTo (.ok (some r)))] = false := by cases a <;> rfl
      rw [hfailed, Bool.or_false]
      cases a with
      | hasNext => exact ⟨log, held', by rw [hlog]; exact (List.append_nil _).symm, hbooks'⟩
      | peek => exact ⟨log, held', by rw [hlog]; exact (List.append_nil _).symm, hbooks'⟩
      | next =>
          obtain ⟨place, held'', hbooks''⟩ := hbooks'.give hpending
          refine ⟨log ++ [(place, r)], held'', ?_, hbooks''⟩
          rw [List.map_append, hlog]
          rfl
  | @ended t held' hpending hover hend hbooks' =>
      have hgiven : delivered [(a, a.replyTo (.ok none))] = [] := by cases a <;> rfl
      have hfailed : hasFailed [(a, a.replyTo (.ok none))] = false := by cases a <;> rfl
      rw [hgiven, hfailed, List.append_nil, Bool.or_false, a.leaves_of_pending hpending]
      exact ⟨log, held', hlog, hbooks'⟩
  | @fault t held' fault hpending hleft hbefore hfails hbooks' =>
      have hgiven : delivered [(a, a.replyTo (.error fault))] = [] := by cases a <;> rfl
      have hfailed : hasFailed [(a, a.replyTo (.error fault))] = true := by cases a <;> rfl
      rw [hgiven, hfailed, List.append_nil, Bool.or_true, a.leaves_of_pending hpending]
      exact ⟨log, held', hlog, hbooks'⟩

/-- **Any sequence of calls keeps the books.** -/
theorem kept_askAll (h : List.Forall₂ Begins starts queues) (comparator : Option Comparator)
    (asks : List Ask) (w : World σ) :
    ∃ heard t v, (askAll asks (start starts comparator)).run w = ((heard, t), v) ∧
      heard.map Prod.fst = asks ∧ Kept starts queues comparator heard t := by
  have hstart : Kept starts queues comparator [] (start starts comparator) :=
    ⟨[], holdsNone, rfl, books_start h comparator⟩
  exact run_askAll (I := fun heard s _ => Kept starts queues comparator heard s)
    (fun _ _ w a hkept => hkept.ask a w) asks hstart

end Kept

end MultiStream

end PipeQuery
