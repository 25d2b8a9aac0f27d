import PipeQuery.Proofs.Outcome
import PipeQuery.Search.Service

/-!
# Invariants of calls, runs and streams

A call keeps an invariant if the invariant holds after it whenever it held
before, whether the call answers or fails (`Call.Keeps`).  What keeps an
invariant step by step keeps it as a whole, so a run keeps what its calls keep.

A stream of hits touches its source only when it fetches.  If its fetches keep
an invariant (`HitStream.Keeps`), so does every other thing that is done with
it, alone or with others: `MultiStream.keeps_takeNext` says so of taking any
number of records.
-/

namespace PipeQuery

variable {σ τ α β : Type}

/-! ## Steps that always answer -/

/-- The invariant is kept, and the answer is of a kind. -/
def StateM.Keeps (I : σ → Prop) (x : StateM σ α) (Q : α → Prop) : Prop :=
  ∀ s, I s → I (x.run s).2 ∧ Q (x.run s).1

namespace StateM

variable {I : σ → Prop} {Q : α → Prop} {R : β → Prop}

theorem Keeps.pure {a : α} (ha : Q a) : Keeps I (pure a) Q := fun _ hs => ⟨hs, ha⟩

theorem Keeps.bind {x : StateM σ α} {f : α → StateM σ β} (hx : Keeps I x Q)
    (hf : ∀ a, Q a → Keeps I (f a) R) : Keeps I (x >>= f) R := by
  intro s hs
  obtain ⟨ht, ha⟩ := hx s hs
  exact hf _ ha _ ht

end StateM

/-! ## Calls -/

namespace Call

/-- The invariant is kept, whatever the call comes to, and an answer is of a
kind. -/
def Keeps (I : σ → Prop) (x : Call σ α) (Q : α → Prop) : Prop :=
  ∀ s, I s → I (on x s).2 ∧ ∀ a, (on x s).1 = .ok a → Q a

variable {I : σ → Prop} {Q : α → Prop} {R : β → Prop}

theorem Keeps.pure {a : α} (ha : Q a) : Keeps I (pure a) Q := by
  refine fun s hs => ⟨hs, fun b hb => ?_⟩
  cases hb
  exact ha

theorem Keeps.bind {x : Call σ α} {f : α → Call σ β} (hx : Keeps I x Q)
    (hf : ∀ a, Q a → Keeps I (f a) R) : Keeps I (x >>= f) R := by
  intro s hs
  obtain ⟨ht, ha⟩ := hx s hs
  cases hrun : on x s with
  | mk outcome t =>
      rw [hrun] at ht ha
      cases outcome with
      | ok a =>
          rw [on_bind_ok hrun]
          exact hf a (ha a rfl) t ht
      | error fault =>
          rw [on_bind_error hrun]
          exact ⟨ht, fun _ h => nomatch h⟩

/-- What is looked at satisfies the invariant. -/
theorem Keeps.get {f : σ → Call σ β} (hf : ∀ s, I s → Keeps I (f s) R) :
    Keeps I (MonadState.get >>= f) R := by
  intro s hs
  rw [on_bind_ok (on_get s)]
  exact hf s hs s hs

end Call

/-! ## Runs -/

namespace Run

variable {I : σ → Prop} {Q : α → Prop}

/-- The invariant holds of the state of a world. -/
def Within (I : σ → Prop) (w : World σ) : Prop := I w.state

theorem keeps_onState {x : Call σ α} (hx : Call.Keeps I x Q) :
    Call.Keeps (Within I) (onState x) Q := by
  intro w hw
  cases hrun : Call.on x w.state with
  | mk outcome t =>
      have h := hx w.state hw
      rw [hrun] at h
      rw [on_onState hrun]
      exact h

theorem keeps_mapFault {change : Fault → Fault} {x : Run σ α} {J : World σ → Prop}
    (hx : Call.Keeps J x Q) : Call.Keeps J (mapFault change x) Q := by
  intro w hw
  obtain ⟨hv, ha⟩ := hx w hw
  cases hrun : Call.on x w with
  | mk outcome v =>
      rw [hrun] at hv ha
      cases outcome with
      | ok a =>
          rw [on_mapFault_ok hrun]
          exact ⟨hv, ha⟩
      | error fault =>
          have hfault : Call.on (mapFault change x) w = (.error (change fault), v) := by
            show (match Call.on x w with
              | (Except.ok a, w) => (Except.ok a, w)
              | (Except.error fault, w) => (Except.error (change fault), w)) = _
            rw [hrun]
          rw [hfault]
          exact ⟨hv, fun _ h => nomatch h⟩

/-- The last part runs where the first part stopped, wherever that is. -/
theorem on_andLast_snd (x : Run σ α) (last : Run σ Unit) (w : World σ) :
    (Call.on (andLast x last) w).2 = (Call.on last (Call.on x w).2).2 := by
  show (match Call.on x w with
    | (outcome, w) =>
      match Call.on last w with
      | (.ok _, w) => (outcome, w)
      | (.error fault, w) => (.error fault, w)).2 = _
  cases Call.on x w with
  | mk outcome v =>
      dsimp only
      cases Call.on last v with
      | mk outcome' u => cases outcome' <;> rfl

/-- Writing to the log changes no state. -/
theorem keeps_ofLogged (x : Logged α) :
    Call.Keeps (Within I) (ofLogged x) fun _ => True := by
  intro w hw
  cases hrun : Call.on x w.log with
  | mk outcome log =>
      rw [on_ofLogged hrun]
      exact ⟨hw, fun _ _ => trivial⟩

theorem keeps_warn (logger message : String) :
    Call.Keeps (Within I) (warn logger message) fun _ => True :=
  fun _ hw => ⟨hw, fun _ _ => trivial⟩

theorem keeps_ofExcept (x : Except Fault α) :
    Call.Keeps (Within I) (ofExcept x) fun a => x = .ok a := by
  intro w hw
  rw [on_ofExcept]
  exact ⟨hw, fun a ha => ha⟩

end Run

/-! ## Streams -/

namespace HitStream

variable {I : σ → Prop}

/-- The fetches of the stream keep the invariant. -/
def Keeps (I : σ → Prop) (s : HitStream σ) : Prop :=
  ∀ numbers, Call.Keeps I (s.fetch numbers) fun _ => True

theorem keeps_fetchBatch {s : HitStream σ} (hs : s.Keeps I) :
    Call.Keeps (Run.Within I) s.fetchBatch fun _ => True := by
  intro w hw
  refine ⟨?_, fun _ _ => trivial⟩
  have hv := (Run.keeps_onState (hs (s.nextHits.map Hit.number)) w hw).1
  cases hrun : Call.on (Run.onState (s.fetch (s.nextHits.map Hit.number))) w with
  | mk outcome v =>
      rw [hrun] at hv
      have hattempt : Run.attempt (Run.onState (s.fetch (s.nextHits.map Hit.number))) w =
          (outcome, v) := hrun
      show Run.Within I (s.fetchBatch w).2
      unfold fetchBatch
      rw [hattempt]
      cases outcome with
      | error fault => exact hv
      | ok records =>
          dsimp only
          split
          · exact hv
          · exact hv

/-- **A stream keeps what its fetches keep**, and goes on to do so. -/
theorem keeps_next {s : HitStream σ} (hs : s.Keeps I) :
    StateM.Keeps (Run.Within I) s.next fun answer => answer.2.Keeps I := by
  intro w hw
  show Run.Within I (s.next w).2 ∧ (s.next w).1.2.Keeps I
  unfold next
  split
  · exact ⟨hw, hs⟩
  · split
    · exact ⟨hw, hs⟩
    · have hv := (keeps_fetchBatch hs w hw).1
      cases hrun : Call.on s.fetchBatch w with
      | mk outcome v =>
          rw [hrun] at hv
          have hattempt : Run.attempt s.fetchBatch w = (outcome, v) := hrun
          rw [hattempt]
          cases outcome with
          | error fault => exact ⟨hv, hs⟩
          | ok batch => exact ⟨hv, hs⟩

end HitStream

namespace MultiStream

variable {I : σ → Prop}

/-- The fetches of all its sources keep the invariant. -/
def Keeps (I : σ → Prop) (s : MultiStream σ) : Prop := ∀ source ∈ s.sources, source.Keeps I

variable {s : MultiStream σ}

theorem keeps_nextOf (hs : s.Keeps I) (place : Nat) :
    StateM.Keeps (Run.Within I) (s.nextOf place) fun answer => answer.2.Keeps I := by
  unfold nextOf
  cases hplace : s.sources[place]? with
  | none => exact .pure hs
  | some source =>
      refine (HitStream.keeps_next (hs source (List.mem_of_getElem? hplace))).bind fun answer h => ?_
      refine .pure fun other hother => ?_
      rcases List.mem_or_eq_of_mem_set hother with hold | rfl
      · exact hs other hold
      · exact h

theorem keeps_nextInSequence (hs : s.Keeps I) :
    StateM.Keeps (Run.Within I) s.nextInSequence fun answer => answer.2.Keeps I := by
  unfold nextInSequence
  split
  · exact .pure hs
  · exact keeps_nextOf hs _

theorem keeps_takeHeads (places : List Nat) : ∀ {s : MultiStream σ}, s.Keeps I →
    ∀ heads, StateM.Keeps (Run.Within I) (s.takeHeads heads places) fun answer =>
      answer.2.Keeps I := by
  induction places with
  | nil => exact fun hs _ => .pure hs
  | cons place rest ih =>
      intro s hs heads
      refine (keeps_nextOf hs place).bind fun answer hanswer => ?_
      obtain ⟨outcome, s'⟩ := answer
      cases outcome with
      | error fault => exact .pure hanswer
      | ok record =>
          cases record with
          | none => exact ih hanswer heads
          | some record => exact ih hanswer _

theorem keeps_currentHeads (hs : s.Keeps I) :
    StateM.Keeps (Run.Within I) s.currentHeads fun answer => answer.2.Keeps I := by
  unfold currentHeads
  split
  · exact keeps_takeHeads _ hs _
  · exact .pure hs
  · refine (keeps_nextOf hs _).bind fun answer hanswer => ?_
    obtain ⟨outcome, s'⟩ := answer
    cases outcome with
    | error fault => exact .pure hanswer
    | ok record => exact .pure hanswer
  · exact .pure hs

theorem keeps_nextMerged (comparator : Comparator) (hs : s.Keeps I) :
    StateM.Keeps (Run.Within I) (s.nextMerged comparator) fun answer => answer.2.Keeps I := by
  refine (keeps_currentHeads hs).bind fun answer hanswer => ?_
  obtain ⟨outcome, s'⟩ := answer
  cases outcome with
  | error fault => exact .pure hanswer
  | ok heads =>
      dsimp only
      split
      · exact .pure hanswer
      · exact .pure hanswer

theorem keeps_pull (hs : s.Keeps I) :
    StateM.Keeps (Run.Within I) s.pull fun answer => answer.2.Keeps I := by
  unfold pull
  split
  · exact keeps_nextInSequence hs
  · exact keeps_nextMerged _ hs

theorem keeps_next (hs : s.Keeps I) :
    StateM.Keeps (Run.Within I) s.next fun answer => answer.2.Keeps I := by
  have hpeek : StateM.Keeps (Run.Within I) s.peek fun answer => answer.2.Keeps I := by
    unfold peek
    split
    · exact .pure hs
    · refine (keeps_pull hs).bind fun answer hanswer => ?_
      obtain ⟨outcome, s'⟩ := answer
      cases outcome with
      | error fault => exact .pure hanswer
      | ok record => cases record <;> exact .pure hanswer
  exact hpeek.bind fun answer hanswer => .pure hanswer

/-- **Taking records keeps what the fetches keep**, however many are taken and
wherever it fails. -/
theorem keeps_takeNext (n : Nat) : ∀ {s : MultiStream σ}, s.Keeps I →
    StateM.Keeps (Run.Within I) (takeNext n s) fun answer => answer.2.Keeps I := by
  induction n with
  | zero => exact fun hs => .pure hs
  | succ n ih =>
      intro s hs
      refine (keeps_next hs).bind fun answer hanswer => ?_
      obtain ⟨outcome, s'⟩ := answer
      cases outcome with
      | error fault => exact .pure hanswer
      | ok record =>
          cases record with
          | none => exact .pure hanswer
          | some record => exact (ih hanswer).bind fun rest hrest => .pure hrest

end MultiStream

/-! ## Searches -/

/-- All streams that have been gathered fetch through calls to the adapter. -/
def Gathering.FetchesOutside {ρ : Type} (g : Gathering σ ρ) : Prop :=
  ∀ stream ∈ g.streams, ∃ fetch : List Int → Call σ (List Record),
    stream.fetch = fun numbers => Sourcing.call (fetch numbers)

namespace SearchService

variable {ρ : Type} {I : Sourcing σ ρ → Prop}

theorem keeps_records {stream : MultiStream (Sourcing σ ρ)} (hs : stream.Keeps I)
    (limit : Option Nat) :
    Call.Keeps (Run.Within I) (records stream limit) fun _ => True := by
  refine fun w hw => ⟨?_, fun _ _ => trivial⟩
  show Run.Within I (records stream limit w).2
  cases limit with
  | none => exact (MultiStream.keeps_takeNext stream.left hs w hw).1
  | some n => exact (MultiStream.keeps_takeNext n hs w hw).1

theorem fetchesOutside_add (s : SearchService σ ρ) {source : String} {reader : ρ} {hits : List Hit}
    {stream : HitStream (Sourcing σ ρ)} {g g' : Gathering σ ρ} (hg : g.FetchesOutside)
    (h : s.streamOf source reader hits = .ok stream) (hg' : g'.streams = g.streams ++ [stream]) :
    g'.FetchesOutside := by
  unfold Gathering.FetchesOutside
  rw [hg']
  intro other hother
  rcases List.mem_append.1 hother with hold | hnew
  · exact hg other hold
  · obtain rfl := List.mem_singleton.1 hnew
    unfold streamOf HitStream.start at h
    split at h
    · cases h
    · cases h
      exact ⟨s.adapter.fetch reader, rfl⟩

section Calls

variable (hcall : ∀ {α : Type} (x : Call σ α), Call.Keeps I (Sourcing.call x) fun _ => True)

include hcall

theorem keeps_ask (source : String) (x : Call σ α) :
    Call.Keeps (Run.Within I) (ask source x : Searching σ ρ α) fun _ => True :=
  Run.keeps_mapFault (Run.keeps_onState (hcall x))

theorem keeps_start {g : Gathering σ ρ} (hg : g.FetchesOutside) (comparator : Option Comparator) :
    (MultiStream.start g.streams comparator).Keeps I := by
  intro stream hstream numbers
  obtain ⟨fetch, hfetch⟩ := hg stream hstream
  rw [hfetch]
  exact hcall _

/-- The records of a page. -/
theorem keeps_pageRecords (plan : PagePlan) (page : Int) {g : Gathering σ ρ}
    (hg : g.FetchesOutside) :
    Call.Keeps (Run.Within I) (pageRecords plan page g.streams) fun _ => True := by
  have hstart := keeps_start hcall hg
  unfold pageRecords
  dsimp only
  split
  · refine (Run.keeps_ofExcept _).bind fun window _ => ?_
    exact (keeps_records (hstart _) _).bind fun _ _ => .pure trivial
  · exact (keeps_records (hstart _) none).bind fun _ _ => .pure trivial

/-- Looking at a reader for a page. -/
theorem keeps_visitForPage (s : SearchService σ ρ) (plan : PagePlan) (source : String) (reader : ρ)
    {g : Gathering σ ρ} (hg : g.FetchesOutside) :
    Call.Keeps (Run.Within I) (s.visitForPage plan source reader g) Gathering.FetchesOutside := by
  unfold visitForPage
  refine (keeps_ask hcall source _).bind fun count _ => ?_
  split
  · exact .pure hg
  · have hhits : ∀ (order : Option SortOrder) (facets : Facets), Call.Keeps (Run.Within I) (do
        let hits ← ask source
          (s.adapter.search reader plan.filter plan.range (some (min plan.window count)) order)
        let stream ← Run.ofExcept (s.streamOf source reader hits)
        return ⟨g.total + count, facets, g.streams ++ [stream]⟩ :
          Searching σ ρ (Gathering σ ρ)) Gathering.FetchesOutside := fun order facets =>
      (keeps_ask hcall source _).bind fun hits _ =>
        (Run.keeps_ofExcept _).bind fun stream hstream =>
          .pure (fetchesOutside_add s hg hstream rfl)
    dsimp only
    split
    · exact (keeps_ask hcall source _).bind fun counts _ => hhits _ _
    · exact hhits _ _

/-- Looking at a reader for a pipeline. -/
theorem keeps_visitForPipeline (s : SearchService σ ρ) (r : SearchRequest) (filter : String)
    (m : MergeOrder) (source : String) (reader : ρ) {g : Gathering σ ρ} (hg : g.FetchesOutside) :
    Call.Keeps (Run.Within I) (s.visitForPipeline r filter m source reader g)
      Gathering.FetchesOutside := by
  unfold visitForPipeline
  refine (keeps_ask hcall source _).bind fun hits _ => ?_
  refine (Run.keeps_ofExcept _).bind fun stream hstream => ?_
  exact .pure (fetchesOutside_add s hg hstream rfl)

end Calls

end SearchService

end PipeQuery
