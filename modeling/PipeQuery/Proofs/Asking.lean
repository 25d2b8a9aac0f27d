import PipeQuery.Proofs.Retries

/-!
# Asking a stream over several sources

A stream over several sources can be asked whether there is a next record, for a
look at it, and for the record itself (`MultiStream.Ask`), in any order and again
after a fault.  All three look at the next record (`MultiStream.run_ask`).

What has come of the calls is told by a log: the records given, in their order,
each with the place of its source (`MultiStream.fromPlace`).  Of each source a
first part of its records has been drawn (`MultiStream.Drawn`): those that the log
has of it, and the one that is held of it for later, if there is one
(`MultiStream.drawnBy`).

* `MultiStream.run_askAll`: what each call keeps, any sequence of calls keeps.
* `HitStream.Draws.next`: a source is at its end, draws its next record, or fails
  and changes nothing.
* `MultiStream.Drawn.nextOf` and `MultiStream.Drawn.takeHeads`: the same of one
  source among several, and of the heads of a merge.
-/

namespace PipeQuery

variable {σ : Type}

/-! ## Calls and replies -/

namespace MultiStream

/-- What a stream can be asked. -/
inductive Ask where
  /-- Whether there is a next record. -/
  | hasNext
  /-- The next record, to look at. -/
  | peek
  /-- The next record. -/
  | next
  deriving DecidableEq

/-- What comes back. -/
inductive Reply where
  | told (more : Bool)
  | record (r : Record)
  | ended
  | failed (fault : Fault)
  deriving DecidableEq

namespace Reply

/-- What comes back from asking for a record. -/
def ofAnswer : HitStream.Answer → Reply
  | .ok (some r) => record r
  | .ok none => ended
  | .error fault => failed fault

/-- What comes back from a look at the end. -/
def ofFlag : Except Fault Bool → Reply
  | .ok more => told more
  | .error fault => failed fault

/-- The stream is said to be at its end. -/
def isEnd : Reply → Bool
  | told more => !more
  | ended => true
  | _ => false

/-- Whether the asking failed. -/
def isFault : Reply → Bool
  | failed _ => true
  | _ => false

end Reply

/-- Asks once. -/
def ask (s : MultiStream σ) : Ask → StateM (World σ) (Reply × MultiStream σ)
  | .hasNext => do
    let (answer, s) ← s.hasNext
    return (.ofFlag answer, s)
  | .peek => do
    let (answer, s) ← s.peek
    return (.ofAnswer answer, s)
  | .next => do
    let (answer, s) ← s.next
    return (.ofAnswer answer, s)

/-- Asks again and again; what was asked, with the replies. -/
def askAll : List Ask → MultiStream σ → StateM (World σ) (List (Ask × Reply) × MultiStream σ)
  | [], s => return ([], s)
  | a :: rest, s => do
    let (reply, s) ← s.ask a
    let (heard, s) ← askAll rest s
    return ((a, reply) :: heard, s)

/-- The records that were given. -/
def delivered (heard : List (Ask × Reply)) : List Record :=
  heard.filterMap fun
    | (.next, .record r) => some r
    | _ => none

/-- One of the replies was a fault. -/
def hasFailed (heard : List (Ask × Reply)) : Bool := heard.any fun h => h.2.isFault

/-- What is replied to a call when the next record was looked at. -/
def Ask.replyTo : Ask → HitStream.Answer → Reply
  | .hasNext, answer => .ofFlag (answer.map Option.isSome)
  | .peek, answer | .next, answer => .ofAnswer answer

/-- What a call leaves of the stream in which the next record was looked at. -/
def Ask.leaves (s : MultiStream σ) : Ask → MultiStream σ
  | .hasNext | .peek => s
  | .next => { s with pending := none }

section Looking

variable {s t : MultiStream σ} {w v : World σ} {answer : HitStream.Answer}

theorem run_hasNext (h : s.peek.run w = ((answer, t), v)) :
    s.hasNext.run w = ((answer.map Option.isSome, t), v) := by
  unfold hasNext
  rw [StateM.run_bind_of_eq h]
  rfl

theorem run_next (h : s.peek.run w = ((answer, t), v)) :
    s.next.run w = ((answer, { t with pending := none }), v) := by
  unfold next
  rw [StateM.run_bind_of_eq h]
  rfl

/-- All three calls look at the next record. -/
theorem run_ask (h : s.peek.run w = ((answer, t), v)) (a : Ask) :
    (s.ask a).run w = ((a.replyTo answer, a.leaves t), v) := by
  cases a with
  | hasNext =>
      show (s.hasNext >>= _).run w = _
      rw [StateM.run_bind_of_eq (run_hasNext h)]
      rfl
  | peek =>
      show (s.peek >>= _).run w = _
      rw [StateM.run_bind_of_eq h]
      rfl
  | next =>
      show (s.next >>= _).run w = _
      rw [StateM.run_bind_of_eq (run_next h)]
      rfl

end Looking

theorem Ask.isEnd_replyTo (a : Ask) (answer : HitStream.Answer) :
    (a.replyTo answer).isEnd = true ↔ answer = .ok none := by
  cases a <;> rcases answer with fault | (_ | r) <;> simp [replyTo, Reply.ofAnswer, Reply.ofFlag,
    Reply.isEnd, Except.map]

/-- What holds at the start and is kept by each call holds after any sequence of
calls. -/
theorem run_askAll {I : List (Ask × Reply) → MultiStream σ → World σ → Prop}
    (hstep : ∀ heard s w a, I heard s w →
      ∃ reply t v, (s.ask a).run w = ((reply, t), v) ∧ I (heard ++ [(a, reply)]) t v)
    (asks : List Ask) {heard : List (Ask × Reply)} {s : MultiStream σ} {w : World σ}
    (hstart : I heard s w) :
    ∃ more t v, (askAll asks s).run w = ((more, t), v) ∧ more.map Prod.fst = asks ∧
      I (heard ++ more) t v := by
  induction asks generalizing heard s w with
  | nil => exact ⟨[], s, w, rfl, rfl, by rwa [List.append_nil]⟩
  | cons a rest ih =>
      obtain ⟨reply, t, v, hask, hI⟩ := hstep heard s w a hstart
      obtain ⟨more, u, v', hrun, hasks, hI'⟩ := ih hI
      refine ⟨(a, reply) :: more, u, v', ?_, by rw [List.map_cons, hasks], ?_⟩
      · rw [askAll, StateM.run_bind_of_eq hask]
        show (askAll rest t >>= _).run v = _
        rw [StateM.run_bind_of_eq hrun]
        rfl
      · rwa [List.append_assoc, List.singleton_append] at hI'

end MultiStream

/-! ## One source -/

namespace HitStream

/-- The stream has just been made over a source that may fail; its hits stand for
these records. -/
def Begins (s : HitStream σ) (queue : List Record) : Prop :=
  ∃ fetch hits collection batchSize recordOf,
    s = atStart fetch hits collection batchSize ∧ 0 < batchSize ∧ Truthful fetch recordOf ∧
      queue = hits.map (found recordOf collection)

/-- What has been drawn from a source that began as `start`: a first part of its
records. -/
def Draws (start source : HitStream σ) (queue part : List Record) : Prop :=
  ∃ recordOf, source.Sound recordOf ∧ SameSource start source ∧
    queue = source.listed recordOf ∧ part = queue.take source.position

variable {start source : HitStream σ} {queue part : List Record}

theorem Begins.draws (h : start.Begins queue) : Draws start start queue [] := by
  obtain ⟨fetch, hits, collection, batchSize, recordOf, rfl, hsize, htruthful, rfl⟩ := h
  exact ⟨recordOf, sound_atStart htruthful hits collection hsize, .refl _, rfl, rfl⟩

/-- As many records have been drawn as the position says. -/
theorem Draws.length_part (h : Draws start source queue part) : part.length = source.position := by
  obtain ⟨recordOf, hsound, _, rfl, rfl⟩ := h
  rw [List.length_take, length_listed, Nat.min_eq_left hsound.within]

theorem Draws.part_isPrefix (h : Draws start source queue part) : part <+: queue := by
  obtain ⟨recordOf, _, _, _, rfl⟩ := h
  exact List.take_prefix _ _

theorem Draws.hasNext_iff (h : Draws start source queue part) :
    source.hasNext = true ↔ part ≠ queue := by
  obtain ⟨recordOf, hsound, _, rfl, rfl⟩ := h
  have hwithin := hsound.within
  rw [hasNext, decide_eq_true_iff, ne_eq, List.take_eq_self_iff, length_listed]
  omega

/-- A call of `next` is at the end, draws one more record, or fails before the end
and changes nothing. -/
theorem Draws.next (h : Draws start source queue part) (w : World σ) :
    ∃ answer t v, source.next.run w = ((answer, t), v) ∧
      ((answer = .ok none ∧ t = source ∧ v = w ∧ part = queue) ∨
        (∃ r, answer = .ok (some r) ∧ Draws start t queue (part ++ [r])) ∨
        ∃ fault, answer = .error fault ∧ t = source ∧ part ≠ queue ∧ ¬ Dependable start.fetch) := by
  obtain ⟨recordOf, hsound, hsource, rfl, rfl⟩ := h
  obtain ⟨answer, t, v, hrun, hstep⟩ := hsound.stepped w
  refine ⟨answer, t, v, hrun, ?_⟩
  have hmore : source.position < source.hits.length →
      (source.listed recordOf).take source.position ≠ source.listed recordOf := by
    intro hlt heq
    rw [List.take_eq_self_iff, length_listed] at heq
    omega
  have hfault : ∀ fault, answer = .error fault → ¬ Dependable start.fetch := by
    rintro fault rfl
    rw [← hsource.fetch]
    exact hstep.not_failed
  -- the record at the position goes behind the part
  have hdraws : source.position < source.hits.length → t.position = source.position + 1 →
      ∃ r, (source.listed recordOf)[source.position]? = some r ∧
        Draws start t (source.listed recordOf)
          ((source.listed recordOf).take source.position ++ [r]) := by
    intro hlt hposition
    have hlt' : source.position < (source.listed recordOf).length := by rwa [length_listed]
    have hget := List.getElem?_eq_getElem hlt'
    refine ⟨_, hget, recordOf, hstep.sound hsound, hsource.trans hstep.sameSource, ?_, ?_⟩
    · exact (hstep.sameSource.listed recordOf).symm
    · rw [hposition, List.take_add_one, hget]
      rfl
  cases hstep with
  | ended hend =>
      refine Or.inl ⟨rfl, rfl, rfl, ?_⟩
      rw [hend, ← length_listed source recordOf, List.take_length]
  | given hnext _ =>
      obtain ⟨r, hr, hdraws⟩ := hdraws hnext rfl
      exact Or.inr (Or.inl ⟨r, by rw [hr], hdraws⟩)
  | refilled hnext _ _ =>
      obtain ⟨r, hr, hdraws⟩ := hdraws hnext rfl
      exact Or.inr (Or.inl ⟨r, by rw [hr], hdraws⟩)
  | failed hnext => exact Or.inr (Or.inr ⟨_, rfl, rfl, hmore hnext, hfault _ rfl⟩)

end HitStream

namespace MultiStream

open HitStream (Draws Begins Dependable)

/-! ## Several sources -/

/-- What has been drawn from each source: a first part of its records. -/
structure Drawn (starts sources : List (HitStream σ)) (queues : List (List Record))
    (parts : Nat → List Record) : Prop where
  length_sources : sources.length = starts.length
  length_queues : queues.length = starts.length
  draws : ∀ place start source queue, starts[place]? = some start →
    sources[place]? = some source → queues[place]? = some queue →
    Draws start source queue (parts place)

section Sources

variable {starts sources : List (HitStream σ)} {queues : List (List Record)}
  {parts : Nat → List Record} {place : Nat}

theorem drawn_of_begins (h : List.Forall₂ Begins starts queues) :
    Drawn starts starts queues fun _ => [] := by
  refine ⟨rfl, h.length_eq.symm, fun place start source queue hstart hsource hqueue => ?_⟩
  rw [hstart, Option.some.injEq] at hsource
  subst hsource
  obtain ⟨hlt, rfl⟩ := List.getElem?_eq_some_iff.1 hstart
  obtain ⟨hlt', rfl⟩ := List.getElem?_eq_some_iff.1 hqueue
  exact (h.get hlt hlt').draws

theorem Drawn.at (h : Drawn starts sources queues parts) (hplace : place < queues.length) :
    ∃ start source queue, starts[place]? = some start ∧ sources[place]? = some source ∧
      queues[place]? = some queue ∧ Draws start source queue (parts place) := by
  have hstarts : place < starts.length := h.length_queues ▸ hplace
  have hsources : place < sources.length := h.length_sources ▸ hstarts
  exact ⟨_, _, _, List.getElem?_eq_getElem hstarts, List.getElem?_eq_getElem hsources,
    List.getElem?_eq_getElem hplace, h.draws _ _ _ _ (List.getElem?_eq_getElem hstarts)
      (List.getElem?_eq_getElem hsources) (List.getElem?_eq_getElem hplace)⟩

/-- Parts that are equal at all places may be exchanged. -/
theorem Drawn.congr {parts' : Nat → List Record} (h : Drawn starts sources queues parts)
    (heq : ∀ place, parts' place = parts place) : Drawn starts sources queues parts' := by
  rwa [show parts' = parts from funext heq]

/-- One more record is drawn from one source. -/
theorem Drawn.set {start source t : HitStream σ} {queue : List Record} {part : List Record}
    (h : Drawn starts sources queues parts) (hstart : starts[place]? = some start)
    (hsource : sources[place]? = some source) (hqueue : queues[place]? = some queue)
    (hdraws : Draws start t queue part) :
    Drawn starts (sources.set place t) queues (Function.update parts place part) := by
  refine ⟨by rw [List.length_set, h.length_sources], h.length_queues, ?_⟩
  intro other start' source' queue' hstart' hsource' hqueue'
  by_cases hother : other = place
  · subst hother
    obtain ⟨hlt, _⟩ := List.getElem?_eq_some_iff.1 hsource
    rw [List.getElem?_set_self hlt, Option.some.injEq] at hsource'
    rw [hstart, Option.some.injEq] at hstart'
    rw [hqueue, Option.some.injEq] at hqueue'
    subst hstart' hsource' hqueue'
    rwa [Function.update_self]
  · rw [List.getElem?_set_ne (Ne.symm hother)] at hsource'
    rw [Function.update_of_ne hother]
    exact h.draws _ _ _ _ hstart' hsource' hqueue'

/-- Asking one source: it is at its end, or draws one more record, or fails before
its end and changes nothing. -/
theorem Drawn.nextOf {s : MultiStream σ} (h : Drawn starts s.sources queues parts)
    (hplace : place < queues.length) (w : World σ) :
    ∃ answer t v, (s.nextOf place).run w = ((answer, t), v) ∧
      ((answer = .ok none ∧ t = s ∧ v = w ∧ queues[place]? = some (parts place)) ∨
        (∃ r sources, answer = .ok (some r) ∧ t = { s with sources := sources } ∧
          Drawn starts sources queues
            (Function.update parts place (parts place ++ [r]))) ∨
        ∃ fault, answer = .error fault ∧ t = s ∧ queues[place]? ≠ some (parts place) ∧
          ¬ ∀ start ∈ starts, Dependable start.fetch) := by
  obtain ⟨start, source, queue, hstart, hsource, hqueue, hdraws⟩ := h.at hplace
  obtain ⟨answer, t, v, hrun, hcases⟩ := hdraws.next w
  have hnext : (s.nextOf place).run w =
      ((answer, { s with sources := s.sources.set place t }), v) := by
    unfold MultiStream.nextOf
    rw [hsource]
    show (source.next >>= _).run w = _
    rw [StateM.run_bind_of_eq hrun]
    rfl
  have hsame : t = source → { s with sources := s.sources.set place t } = s := by
    rintro rfl
    obtain ⟨_, rfl⟩ := List.getElem?_eq_some_iff.1 hsource
    rw [List.set_getElem_self]
  refine ⟨answer, _, v, hnext, ?_⟩
  rcases hcases with ⟨hanswer, ht, hv, hpart⟩ | ⟨r, hanswer, hdraws'⟩ |
    ⟨fault, hanswer, ht, hpart, hfails⟩
  · exact Or.inl ⟨hanswer, hsame ht, hv, by rw [hqueue, hpart]⟩
  · exact Or.inr (Or.inl ⟨r, _, hanswer, rfl, h.set hstart hsource hqueue hdraws'⟩)
  · refine Or.inr (Or.inr ⟨fault, hanswer, hsame ht, ?_, fun hall => ?_⟩)
    · rw [hqueue, ne_eq, Option.some.injEq]
      exact fun heq => hpart heq.symm
    · exact hfails (hall start (List.mem_of_getElem? hstart))

end Sources

/-! ## The log of what was given -/

/-- The records of a log that came from one source. -/
def fromPlace (place : Nat) (log : List (Nat × Record)) : List Record :=
  (log.filter fun e => e.1 = place).map Prod.snd

theorem fromPlace_append (place : Nat) (log more : List (Nat × Record)) :
    fromPlace place (log ++ more) = fromPlace place log ++ fromPlace place more := by
  rw [fromPlace, List.filter_append, List.map_append]
  rfl

theorem fromPlace_self (place : Nat) (r : Record) : fromPlace place [(place, r)] = [r] := by
  simp [fromPlace]

theorem fromPlace_of_ne {place other : Nat} (h : other ≠ place) (r : Record) :
    fromPlace other [(place, r)] = [] := by
  simp [fromPlace, Ne.symm h]

/-- All records of the source at a place have been given. -/
def GivenAt (queues : List (List Record)) (log : List (Nat × Record)) (place : Nat) : Prop :=
  queues[place]? = some (fromPlace place log)

/-- All records of all sources have been given. -/
def AllGiven (queues : List (List Record)) (log : List (Nat × Record)) : Prop :=
  ∀ place < queues.length, GivenAt queues log place

/-! ## Heads -/

/-- The record that is held of each source, if there is one. -/
abbrev Held := Nat → Option Record

/-- Nothing is held. -/
def holdsNone : Held := fun _ => none

/-- What is held is of sources that there are. -/
def Known (queues : List (List Record)) (held : Held) : Prop :=
  ∀ place r, held place = some r → place < queues.length

theorem known_holdsNone (queues : List (List Record)) : Known queues holdsNone :=
  fun _ _ heq => by cases heq

theorem Known.update {queues : List (List Record)} {held : Held} {place : Nat}
    (h : Known queues held) (hplace : place < queues.length) (record : Option Record) :
    Known queues (Function.update held place record) := by
  intro other r heq
  by_cases hother : other = place
  · rwa [hother]
  · rw [Function.update_of_ne hother] at heq
    exact h other r heq

/-- Where nothing is held of a source, all its records have been given. -/
def RestGiven (queues : List (List Record)) (log : List (Nat × Record)) (held : Held) : Prop :=
  ∀ place < queues.length, held place = none → GivenAt queues log place

/-- The heads of the merge are what is held. -/
def AreHeads (heads : List (Nat × Record)) (held : Held) : Prop :=
  ∀ place r, (place, r) ∈ heads ↔ held place = some r

/-- What has been drawn of the source at a place: what the log has of it, and what
is held of it. -/
def drawnBy (log : List (Nat × Record)) (held : Held) (place : Nat) : List Record :=
  fromPlace place log ++ (held place).toList

/-- One more record is held of a source of which none was. -/
theorem update_drawnBy {log : List (Nat × Record)} {held : Held} {place : Nat}
    (hnone : held place = none) (r : Record) (other : Nat) :
    drawnBy log (Function.update held place (some r)) other =
      Function.update (drawnBy log held) place (drawnBy log held place ++ [r]) other := by
  by_cases hother : other = place
  · subst hother
    simp [drawnBy, hnone]
  · simp [drawnBy, hother]

theorem areHeads_nil : AreHeads [] holdsNone := by simp [AreHeads, holdsNone]

theorem AreHeads.snoc {heads : List (Nat × Record)} {held : Held} {place : Nat}
    (h : AreHeads heads held) (hnone : held place = none) (r : Record) :
    AreHeads (heads ++ [(place, r)]) (Function.update held place (some r)) := by
  intro other r'
  rw [List.mem_append, h other r', List.mem_singleton, Prod.mk.injEq]
  by_cases hother : other = place
  · subst hother
    simp [hnone, eq_comm]
  · simp [hother]

/-- Replacing a head replaces what is held of its source. -/
theorem AreHeads.replace {heads : List (Nat × Record)} {held : Held} {place : Nat}
    (h : AreHeads heads held) (hsome : held place ≠ none) (record : Option Record) :
    AreHeads (replaceHead place record heads) (Function.update held place record) := by
  intro other r
  rw [replaceHead, List.mem_filterMap]
  constructor
  · rintro ⟨⟨p, r'⟩, hmem, heq⟩
    have hheld := (h p r').1 hmem
    by_cases hp : p = place
    · rw [if_pos hp, Option.map_eq_some_iff] at heq
      obtain ⟨r'', rfl, heq⟩ := heq
      obtain ⟨rfl, rfl⟩ := Prod.mk.inj heq
      rw [Function.update_self]
    · rw [if_neg hp] at heq
      obtain ⟨rfl, rfl⟩ := Prod.mk.inj (Option.some.inj heq)
      rw [Function.update_of_ne hp, hheld]
  · intro hupdate
    by_cases hother : other = place
    · subst hother
      rw [Function.update_self] at hupdate
      obtain ⟨old, hold⟩ := Option.ne_none_iff_exists'.1 hsome
      exact ⟨(other, old), (h other old).2 hold, by simp [hupdate]⟩
    · rw [Function.update_of_ne hother] at hupdate
      exact ⟨(other, r), (h other r).2 hupdate, by simp [hother]⟩

/-- What came of drawing the heads of a merge: all of them, or a fault in front of
the end. -/
structure HeadsDrawn (starts : List (HitStream σ)) (queues : List (List Record))
    (log : List (Nat × Record)) (s t : MultiStream σ) (outcome : Except Fault (List (Nat × Record)))
    (held : Held) : Prop where
  eq_sources : t = { s with sources := t.sources }
  drawn : Drawn starts t.sources queues (drawnBy log held)
  known : Known queues held
  heads : ∀ heads, outcome = .ok heads → AreHeads heads held ∧ RestGiven queues log held
  fault : ∀ fault, outcome = .error fault →
    ¬ AllGiven queues log ∧ ¬ ∀ start ∈ starts, Dependable start.fetch

section Heads

variable {starts : List (HitStream σ)} {queues : List (List Record)} {log : List (Nat × Record)}
  {s : MultiStream σ} {held : Held}

/-- A source that has more than the log has of it. -/
theorem not_allGiven_of_drawn {place : Nat} (hplace : place < queues.length)
    (hnone : held place = none) (hmore : queues[place]? ≠ some (drawnBy log held place)) :
    ¬ AllGiven queues log := by
  intro hall
  refine hmore ?_
  rw [drawnBy, hnone, Option.toList_none, List.append_nil]
  exact hall place hplace

/-- Drawing the first records of the sources at some places. -/
theorem Drawn.takeHeads (places : List Nat) (heads : List (Nat × Record))
    (h : Drawn starts s.sources queues (drawnBy log held)) (hheads : AreHeads heads held)
    (hplaces : ∀ place ∈ places, place < queues.length ∧ held place = none)
    (hnodup : places.Nodup) (hknown : Known queues held)
    (hrest : ∀ place < queues.length, held place = none → place ∉ places →
      GivenAt queues log place) (w : World σ) :
    ∃ outcome t v held', (s.takeHeads heads places).run w = ((outcome, t), v) ∧
      HeadsDrawn starts queues log s t outcome held' := by
  induction places generalizing s heads held w with
  | nil =>
      refine ⟨.ok heads, s, w, held, rfl, rfl, h, hknown, ?_, fun _ hfault => by cases hfault⟩
      intro heads' heq
      obtain rfl := Except.ok.inj heq
      exact ⟨hheads, fun place hplace hnone => hrest place hplace hnone (List.not_mem_nil)⟩
  | cons place rest ih =>
      obtain ⟨hplace, hnone⟩ := hplaces place (List.mem_cons_self ..)
      obtain ⟨hnotin, hnodup'⟩ := List.nodup_cons.1 hnodup
      have hothers : ∀ other ∈ rest, other ≠ place := fun other hother heq => hnotin (heq ▸ hother)
      obtain ⟨answer, t, v, hrun, hcases⟩ := h.nextOf hplace w
      rw [MultiStream.takeHeads, StateM.run_bind_of_eq hrun]
      rcases hcases with ⟨rfl, rfl, rfl, hpart⟩ | ⟨r, sources, rfl, rfl, hdrawn⟩ |
        ⟨fault, rfl, rfl, hpart, hfails⟩
      · -- a source at its end has no head
        refine ih heads h hheads (fun p hp => hplaces p (List.mem_cons_of_mem _ hp)) hnodup' hknown
          ?_ v
        intro other hlt hother hnotin'
        by_cases heq : other = place
        · subst heq
          rwa [drawnBy, hnone, Option.toList_none, List.append_nil] at hpart
        · refine hrest other hlt hother fun hmem => ?_
          exact (List.mem_cons.1 hmem).elim heq hnotin'
      · have hdrawn' : Drawn starts sources queues
            (drawnBy log (Function.update held place (some r))) :=
          hdrawn.congr (update_drawnBy hnone r)
        have hmore := ih (s := { s with sources := sources }) (heads ++ [(place, r)]) hdrawn'
          (hheads.snoc hnone r) ?_ hnodup' (hknown.update hplace (some r)) ?_ v
        · obtain ⟨outcome, u, v', held', hrun', hcame⟩ := hmore
          exact ⟨outcome, u, v', held', hrun', hcame.eq_sources, hcame.drawn, hcame.known,
            hcame.heads, hcame.fault⟩
        · intro other hother
          rw [Function.update_of_ne (hothers other hother)]
          exact hplaces other (List.mem_cons_of_mem _ hother)
        · intro other hlt hother hnotin'
          have heq : other ≠ place := by
            rintro rfl
            rw [Function.update_self] at hother
            cases hother
          rw [Function.update_of_ne heq] at hother
          exact hrest other hlt hother fun hmem => (List.mem_cons.1 hmem).elim heq hnotin'
      · refine ⟨.error fault, t, v, held, rfl, rfl, h, hknown, (fun _ heq => by cases heq), ?_⟩
        exact fun _ _ => ⟨not_allGiven_of_drawn hplace hnone hpart, hfails⟩

end Heads

end MultiStream

end PipeQuery
