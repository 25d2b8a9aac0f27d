import PipeQuery.Proofs.Interleavings
import Mathlib.Algebra.Order.Floor.Div

/-!
# Streams of hits over sources that fail

A source may fail at any time, or answer with another number of records than it
was asked for, and may change while it does so.  All that is asked of it is that
the right number of records are the right records (`HitStream.Truthful`).

A stream over such a source still gives its list from the front, without a gap
and without a repeat.  What a single call of `next` can come to is one of four
things (`HitStream.Stepped`): the end, a record of the batch, a record of a new
batch, or a fault that leaves the stream as it was.  What carries the argument
is `HitStream.Sound`: position, batch and number of batches fit together, so
that the batch is used up exactly where the next slice of the hits begins.

* `Sound.stepped` and `Stepped.sound`: a call of `next` comes to one of the four,
  and keeps what fits together.
* `Sound.batches_eq`: as many batches have been fetched as the records given
  make necessary (`partsFor`).
* `kept_despite_faults`: the account of a source after any number of calls.
-/

namespace PipeQuery

variable {σ : Type}

/-- The part of a list with a certain number, if it is cut into parts of one
size. -/
def slice {α : Type} (size : Nat) (items : List α) (number : Nat) : List α :=
  (items.drop (number * size)).take size

/-- How many parts of one size hold so many items: the quotient, rounded up. -/
def partsFor (size count : Nat) : Nat := (count + size - 1) / size

/-- So many parts are enough exactly if they have room for all items. -/
theorem partsFor_le_iff {size count parts : Nat} (hsize : 0 < size) :
    partsFor size count ≤ parts ↔ count ≤ parts * size := by
  rw [partsFor, ← Nat.ceilDiv_eq_add_pred_div, ceilDiv_le_iff_le_mul hsize, Nat.mul_comm]

namespace HitStream

/-- Where the source answers with as many records as there are numbers, they are
the records of these numbers; it may fail or be short at any time. -/
def Truthful (fetch : List Int → Call σ (List Record)) (recordOf : Int → Record) : Prop :=
  ∀ numbers state records state', Call.on (fetch numbers) state = (.ok records, state') →
    records.length = numbers.length → records = numbers.map recordOf

/-- What was asked for has come. -/
def HasCome (numbers : List Int) : Except Fault (List Record) → Bool
  | .ok records => records.length = numbers.length
  | .error _ => false

/-- The source always answers with as many records as it was asked for. -/
def Dependable (fetch : List Int → Call σ (List Record)) : Prop :=
  ∀ numbers state, HasCome numbers (Call.on (fetch numbers) state).1 = true

/-- The records that the hits of the stream stand for. -/
def listed (s : HitStream σ) (recordOf : Int → Record) : List Record :=
  s.hits.map (s.shownBy recordOf)

/-- The stream behind the record at its position. -/
def advanced (s : HitStream σ) : HitStream σ := { s with position := s.position + 1 }

/-! ## What fits together -/

/-- The stream has fetched the batches up to its position and no more, and keeps
the last of them. -/
structure Sound (s : HitStream σ) (recordOf : Int → Record) : Prop where
  truthful : Truthful s.fetch recordOf
  batchSize_pos : 0 < s.batchSize
  started : s.batchStart ≤ s.position
  batch_eq : s.batch = ((s.listed recordOf).take (s.batches * s.batchSize)).drop s.batchStart
  within : s.position ≤ s.hits.length
  fetched : s.position ≤ s.batches * s.batchSize
  needed : ∀ n < s.batches, n * s.batchSize < s.position

theorem length_listed (s : HitStream σ) (recordOf : Int → Record) :
    (s.listed recordOf).length = s.hits.length :=
  List.length_map ..

/-- A stream at its start. -/
theorem sound_atStart {fetch : List Int → Call σ (List Record)} {recordOf : Int → Record}
    (htruthful : Truthful fetch recordOf) (hits : List Hit) (collection : String) {batchSize : Nat}
    (hsize : 0 < batchSize) : (atStart fetch hits collection batchSize).Sound recordOf where
  truthful := htruthful
  batchSize_pos := hsize
  started := Nat.le_refl _
  batch_eq := by simp [atStart]
  within := Nat.zero_le _
  fetched := Nat.zero_le _
  needed := fun _ hn => absurd hn (Nat.not_lt_zero _)

section Steps

variable {s t : HitStream σ} {w v : World σ} {recordOf : Int → Record} {answer : Answer}

/-- As many batches have been fetched as the records given make necessary. -/
theorem Sound.batches_eq (h : s.Sound recordOf) : s.batches = partsFor s.batchSize s.position := by
  refine le_antisymm (not_lt.1 fun hless => ?_) ((partsFor_le_iff h.batchSize_pos).2 h.fetched)
  have hbefore := h.needed _ hless
  have hcovers : s.position ≤ partsFor s.batchSize s.position * s.batchSize :=
    (partsFor_le_iff h.batchSize_pos).1 le_rfl
  omega

theorem Sound.length_batch (h : s.Sound recordOf) :
    s.batchStart + s.batch.length = min (s.batches * s.batchSize) s.hits.length := by
  have hstarted := h.started
  have hwithin := h.within
  have hfetched := h.fetched
  rw [h.batch_eq, List.length_drop, List.length_take, length_listed]
  omega

/-- The batch is used up only where the next slice begins. -/
theorem Sound.position_of_usedUp (h : s.Sound recordOf) (hnext : s.position < s.hits.length)
    (hused : ¬ s.position < s.batchStart + s.batch.length) :
    s.position = s.batches * s.batchSize := by
  have hfetched := h.fetched
  rw [h.length_batch] at hused
  omega

/-- The next batch is the next slice of the hits. -/
theorem Sound.nextHits_eq (h : s.Sound recordOf) (hnext : s.position < s.hits.length)
    (hused : ¬ s.position < s.batchStart + s.batch.length) :
    s.nextHits = slice s.batchSize s.hits s.batches := by
  rw [nextHits, h.position_of_usedUp hnext hused, slice]

/-! ## One call -/

/-- What a call of `next` can come to: its answer, what is left of the stream, and
the world behind it. -/
inductive Stepped (s : HitStream σ) (w : World σ) (recordOf : Int → Record) :
    Answer → HitStream σ → World σ → Prop
  /-- All records have been given. -/
  | ended (hend : s.position = s.hits.length) : Stepped s w recordOf (.ok none) s w
  /-- The record at the position is in the batch. -/
  | given (hnext : s.position < s.hits.length)
      (hinside : s.position < s.batchStart + s.batch.length) :
      Stepped s w recordOf (.ok (s.listed recordOf)[s.position]?) s.advanced w
  /-- The batch is used up and the next one has come. -/
  | refilled {state : σ} (hnext : s.position < s.hits.length)
      (hused : ¬ s.position < s.batchStart + s.batch.length)
      (hcall : Call.on (s.fetch (s.nextHits.map Hit.number)) w.state =
        (.ok ((s.nextHits.map Hit.number).map recordOf), state)) :
      Stepped s w recordOf (.ok (s.listed recordOf)[s.position]?)
        (s.refilled (s.nextHits.map (s.shownBy recordOf))).advanced { w with state := state }
  /-- The batch is used up and the next one has not come. -/
  | failed {state : σ} {outcome : Except Fault (List Record)}
      (hnext : s.position < s.hits.length)
      (hused : ¬ s.position < s.batchStart + s.batch.length)
      (hcall : Call.on (s.fetch (s.nextHits.map Hit.number)) w.state = (outcome, state))
      (hcome : HasCome (s.nextHits.map Hit.number) outcome = false) (reason : String)
      (log : List LogLine) :
      Stepped s w recordOf (.error (.retrieval s.collection reason)) s ⟨state, log⟩

/-- A batch that has come is the next slice of the records. -/
theorem fetchBatch_of_hasCome (htruthful : Truthful s.fetch recordOf) {records : List Record}
    {state : σ} (hcall : Call.on (s.fetch (s.nextHits.map Hit.number)) w.state =
      (.ok records, state)) (hlength : records.length = s.nextHits.length) :
    records = (s.nextHits.map Hit.number).map recordOf ∧
      s.fetchBatch.attempt w =
        (.ok (s.nextHits.map (s.shownBy recordOf)), { w with state := state }) := by
  have hrecords := htruthful _ _ _ _ hcall (by rw [hlength, List.length_map])
  have hattempt : Run.attempt (Run.onState (s.fetch (s.nextHits.map Hit.number))) w =
      (.ok records, { w with state := state }) := Run.on_onState hcall
  have hzip : (((s.nextHits.map Hit.number).map recordOf).zip s.nextHits).map
      (fun r => r.1.withHit r.2.score s.collection) = s.nextHits.map (s.shownBy recordOf) := by
    induction s.nextHits with
    | nil => rfl
    | cons first rest ih =>
        simp only [List.map_cons, List.zip_cons_cons, ih]
        rfl
  refine ⟨hrecords, ?_⟩
  show HitStream.fetchBatch s w = _
  unfold HitStream.fetchBatch
  rw [hattempt]
  simp only [hlength, if_true]
  rw [hrecords, hzip]

/-- A batch that has not come is a fault of the source. -/
theorem fetchBatch_of_not_hasCome {outcome : Except Fault (List Record)} {state : σ}
    (hcall : Call.on (s.fetch (s.nextHits.map Hit.number)) w.state = (outcome, state))
    (hcome : HasCome (s.nextHits.map Hit.number) outcome = false) :
    ∃ reason log, s.fetchBatch.attempt w = (.error (.retrieval s.collection reason), ⟨state, log⟩) := by
  have hattempt : Run.attempt (Run.onState (s.fetch (s.nextHits.map Hit.number))) w =
      (outcome, { w with state := state }) := Run.on_onState hcall
  show ∃ reason log, HitStream.fetchBatch s w = _
  unfold HitStream.fetchBatch
  rw [hattempt]
  cases outcome with
  | error fault => exact ⟨_, _, rfl⟩
  | ok records =>
      have hlength : ¬ records.length = s.nextHits.length := by
        simpa [HasCome] using hcome
      simp only [if_neg hlength]
      exact ⟨_, _, rfl⟩

/-- Inside the batch, the record at the position is that of the list. -/
theorem Sound.take_eq (h : s.Sound recordOf)
    (hinside : s.position < s.batchStart + s.batch.length) :
    s.take = ((s.listed recordOf)[s.position]?, s.advanced) := by
  have hstarted := h.started
  have hlength := h.length_batch
  have hrecord : s.batch[s.position - s.batchStart]? = (s.listed recordOf)[s.position]? := by
    rw [h.batch_eq, List.getElem?_drop, Nat.add_sub_cancel' hstarted,
      List.getElem?_take_of_lt (by omega)]
  rw [HitStream.take, hrecord]
  rfl

/-- The first record of the next batch. -/
theorem take_refilled (hsize : 0 < s.batchSize) (recordOf : Int → Record) :
    (s.refilled (s.nextHits.map (s.shownBy recordOf))).take =
      ((s.listed recordOf)[s.position]?,
        (s.refilled (s.nextHits.map (s.shownBy recordOf))).advanced) := by
  have hrecord : (s.nextHits.map (s.shownBy recordOf))[s.position - s.position]? =
      (s.listed recordOf)[s.position]? := by
    rw [Nat.sub_self, nextHits, List.map_take, List.map_drop, List.getElem?_take_of_lt hsize,
      List.getElem?_drop]
    rfl
  show ((s.nextHits.map (s.shownBy recordOf))[s.position - s.position]?, _) = _
  rw [hrecord]
  rfl

/-- **A call of `next` comes to one of four things.** -/
theorem Sound.stepped (h : s.Sound recordOf) (w : World σ) :
    ∃ answer t v, s.next.run w = ((answer, t), v) ∧ Stepped s w recordOf answer t v := by
  show ∃ answer t v, s.next w = ((answer, t), v) ∧ _
  unfold HitStream.next
  by_cases hnext : s.position < s.hits.length
  · have hhas : s.hasNext = true := decide_eq_true hnext
    simp only [hhas, Bool.not_true, Bool.false_eq_true, if_false]
    by_cases hinside : s.position < s.batchStart + s.batch.length
    · rw [if_pos hinside, h.take_eq hinside]
      exact ⟨_, _, _, rfl, .given hnext hinside⟩
    · rw [if_neg hinside]
      cases hcall : Call.on (s.fetch (s.nextHits.map Hit.number)) w.state with
      | mk outcome state =>
          cases hcome : HasCome (s.nextHits.map Hit.number) outcome with
          | false =>
              obtain ⟨reason, log, hbatch⟩ := fetchBatch_of_not_hasCome hcall hcome
              rw [hbatch]
              exact ⟨_, _, _, rfl, .failed hnext hinside hcall hcome reason log⟩
          | true =>
              cases outcome with
              | error fault => cases hcome
              | ok records =>
                  have hlength : records.length = s.nextHits.length := by
                    simpa [HasCome] using hcome
                  obtain ⟨rfl, hbatch⟩ := fetchBatch_of_hasCome h.truthful hcall hlength
                  rw [hbatch]
                  refine ⟨_, _, _, ?_, .refilled hnext hinside hcall⟩
                  show ((Except.ok (s.refilled _).take.1, (s.refilled _).take.2), _) = _
                  rw [take_refilled h.batchSize_pos recordOf]
  · have hend : s.position = s.hits.length := by
      have hwithin := h.within
      omega
    have hhas : s.hasNext = false := decide_eq_false hnext
    simp only [hhas, Bool.not_false, if_true]
    exact ⟨_, _, _, rfl, .ended hend⟩

/-- What fits together still does after a call. -/
theorem Stepped.sound (hstep : Stepped s w recordOf answer t v) (h : s.Sound recordOf) :
    t.Sound recordOf := by
  have hstarted := h.started
  have hfetched := h.fetched
  have hneeded := h.needed
  cases hstep with
  | ended _ => exact h
  | failed => exact h
  | given hnext hinside =>
      have hlength := h.length_batch
      refine ⟨h.truthful, h.batchSize_pos, ?_, h.batch_eq, hnext, ?_, ?_⟩
      · exact Nat.le_succ_of_le hstarted
      · show s.position + 1 ≤ s.batches * s.batchSize
        omega
      · intro n hn
        exact Nat.lt_succ_of_lt (hneeded n hn)
  | refilled hnext hused hcall =>
      have hposition := h.position_of_usedUp hnext hused
      have hpos := h.batchSize_pos
      refine ⟨h.truthful, hpos, Nat.le_succ _, ?_, hnext, ?_, ?_⟩
      · show s.nextHits.map (s.shownBy recordOf) =
          ((s.listed recordOf).take ((s.batches + 1) * s.batchSize)).drop s.position
        rw [nextHits, List.map_take, List.map_drop, List.take_drop, hposition, Nat.succ_mul]
        rfl
      · show s.position + 1 ≤ (s.batches + 1) * s.batchSize
        rw [Nat.succ_mul]
        omega
      · intro n hn
        have hle : n * s.batchSize ≤ s.batches * s.batchSize :=
          Nat.mul_le_mul_right _ (Nat.le_of_lt_succ hn)
        show n * s.batchSize < s.position + 1
        omega

/-- The streams have the same hits in the same source. -/
structure SameSource (s t : HitStream σ) : Prop where
  fetch : t.fetch = s.fetch
  hits : t.hits = s.hits
  collection : t.collection = s.collection
  batchSize : t.batchSize = s.batchSize

theorem SameSource.refl (s : HitStream σ) : SameSource s s := ⟨rfl, rfl, rfl, rfl⟩

theorem SameSource.trans {s t u : HitStream σ} (h : SameSource s t) (h' : SameSource t u) :
    SameSource s u :=
  ⟨h'.fetch.trans h.fetch, h'.hits.trans h.hits, h'.collection.trans h.collection,
    h'.batchSize.trans h.batchSize⟩

theorem SameSource.listed (h : SameSource s t) (recordOf : Int → Record) :
    t.listed recordOf = s.listed recordOf := by
  have hshown : t.shownBy recordOf = s.shownBy recordOf := by
    funext hit
    rw [shownBy, shownBy, h.collection]
  rw [HitStream.listed, HitStream.listed, h.hits, hshown]

theorem Stepped.sameSource (hstep : Stepped s w recordOf answer t v) : SameSource s t := by
  cases hstep with
  | ended => exact .refl s
  | given => exact ⟨rfl, rfl, rfl, rfl⟩
  | refilled => exact ⟨rfl, rfl, rfl, rfl⟩
  | failed => exact .refl s

end Steps

/-! ## Many calls -/

/-- A number of calls of `next`, whatever they come to. -/
def nextTimes : Nat → HitStream σ → StateM (World σ) (List Answer × HitStream σ)
  | 0, s => return ([], s)
  | n + 1, s => do
    let (answers, s) ← nextTimes n s
    let (answer, s) ← s.next
    return (answers ++ [answer], s)

/-- The records among some answers. -/
def recordsIn (answers : List Answer) : List Record :=
  answers.filterMap fun
    | .ok record => record
    | .error _ => none

theorem recordsIn_snoc (answers : List Answer) (answer : Answer) :
    recordsIn (answers ++ [answer]) = recordsIn answers ++ recordsIn [answer] :=
  List.filterMap_append ..

theorem recordsIn_ok (record : Option Record) : recordsIn [.ok record] = record.toList := by
  cases record <;> rfl

theorem recordsIn_error (fault : Fault) : recordsIn [.error fault] = [] := rfl

/-- What holds at the start and is kept by each call holds after any number of
calls. -/
theorem run_nextTimes {I : List Answer → HitStream σ → World σ → Prop} {s : HitStream σ}
    {w : World σ} (hstart : I [] s w)
    (hstep : ∀ answers t v, I answers t v →
      ∃ answer u v', t.next.run v = ((answer, u), v') ∧ I (answers ++ [answer]) u v') (n : Nat) :
    ∃ answers t v, (nextTimes n s).run w = ((answers, t), v) ∧ answers.length = n ∧
      I answers t v := by
  induction n with
  | zero => exact ⟨[], s, w, rfl, rfl, hstart⟩
  | succ n ih =>
      obtain ⟨answers, t, v, hrun, hlength, hI⟩ := ih
      obtain ⟨answer, u, v', hnext, hI'⟩ := hstep answers t v hI
      refine ⟨answers ++ [answer], u, v', ?_, by simp [hlength], hI'⟩
      rw [nextTimes, StateM.run_bind_of_eq hrun]
      show (t.next >>= _).run v = _
      rw [StateM.run_bind_of_eq hnext]
      rfl

/-! ## The account of a source -/

/-- A batch that was asked for: the numbers of its records, and whether they have
come. -/
structure Fetch where
  numbers : List Int
  came : Bool
  deriving DecidableEq

/-- The source, with an account of all that has been asked of it. -/
def accounted (fetch : List Int → Call σ (List Record)) (numbers : List Int) :
    Call (σ × List Fetch) (List Record) := fun s =>
  match Call.on (fetch numbers) s.1 with
  | (outcome, state) => (outcome, (state, s.2 ++ [⟨numbers, HasCome numbers outcome⟩]))

theorem on_accounted (fetch : List Int → Call σ (List Record)) (numbers : List Int)
    (s : σ × List Fetch) :
    Call.on (accounted fetch numbers) s =
      ((Call.on (fetch numbers) s.1).1, ((Call.on (fetch numbers) s.1).2,
        s.2 ++ [⟨numbers, HasCome numbers (Call.on (fetch numbers) s.1).1⟩])) :=
  rfl

theorem Truthful.accounted {fetch : List Int → Call σ (List Record)} {recordOf : Int → Record}
    (h : Truthful fetch recordOf) : Truthful (accounted fetch) recordOf := by
  intro numbers state records state' hcall hlength
  rw [on_accounted, Prod.mk.injEq] at hcall
  exact h numbers state.1 records _ (Prod.ext hcall.1 rfl) hlength

/-- A call on an accounted source is entered into the account. -/
theorem account_of_call {fetch : List Int → Call σ (List Record)} {numbers : List Int}
    {s s' : σ × List Fetch} {outcome : Except Fault (List Record)}
    (hcall : Call.on (accounted fetch numbers) s = (outcome, s')) :
    s'.2 = s.2 ++ [⟨numbers, HasCome numbers outcome⟩] := by
  rw [on_accounted, Prod.mk.injEq] at hcall
  obtain ⟨houtcome, rfl⟩ := hcall
  rw [houtcome]

/-- The batches that have come. -/
def arrivals (account : List Fetch) : List (List Int) := (account.filter Fetch.came).map Fetch.numbers

theorem arrivals_snoc (account : List Fetch) (fetch : Fetch) :
    arrivals (account ++ [fetch]) =
      arrivals account ++ if fetch.came then [fetch.numbers] else [] := by
  rw [arrivals, List.filter_append, List.map_append]
  cases hcame : fetch.came <;> simp [arrivals, hcame]

/-- The numbers of some slices of the hits. -/
def slices (size : Nat) (hits : List Hit) (count : Nat) : List (List Int) :=
  (List.range count).map fun k => (slice size hits k).map Hit.number

theorem slices_succ (size : Nat) (hits : List Hit) (count : Nat) :
    slices size hits (count + 1) =
      slices size hits count ++ [(slice size hits count).map Hit.number] := by
  rw [slices, List.range_succ, List.map_append]
  rfl

/-- What a stream over an accounted source has come to: it has given the first
records of its list, and the batches that have come are the first slices of its
hits. -/
structure InStep (start : HitStream (σ × List Fetch)) (recordOf : Int → Record)
    (answers : List Answer) (t : HitStream (σ × List Fetch)) (w : World (σ × List Fetch)) :
    Prop where
  sound : t.Sound recordOf
  sameSource : SameSource start t
  given : recordsIn answers = (t.listed recordOf).take t.position
  arrived : arrivals w.state.2 = slices t.batchSize t.hits t.batches

section Account

variable {fetch : List Int → Call σ (List Record)} {recordOf : Int → Record}
  {start t u : HitStream (σ × List Fetch)} {w v : World (σ × List Fetch)} {answer : Answer}
  {answers : List Answer}

/-- One more call of `next` keeps the stream in step with its account. -/
theorem InStep.step (h : InStep start recordOf answers t w) (hstart : start.fetch = accounted fetch)
    (hstep : Stepped t w recordOf answer u v) :
    InStep start recordOf (answers ++ [answer]) u v := by
  have hfetch : t.fetch = accounted fetch := h.sameSource.fetch.trans hstart
  have hsource := hstep.sameSource
  -- the records of the answers up to the next position
  have hrecord : recordsIn (answers ++ [.ok (t.listed recordOf)[t.position]?]) =
      (t.listed recordOf).take (t.position + 1) := by
    rw [recordsIn_snoc, h.given, recordsIn_ok, List.take_add_one]
  refine ⟨hstep.sound h.sound, h.sameSource.trans hsource, ?_, ?_⟩
  · rw [hsource.listed]
    cases hstep with
    | ended _ => rw [recordsIn_snoc, h.given, recordsIn_ok, Option.toList_none, List.append_nil]
    | given => exact hrecord
    | refilled => exact hrecord
    | failed => rw [recordsIn_snoc, h.given, recordsIn_error, List.append_nil]
  · cases hstep with
    | ended _ => exact h.arrived
    | given => exact h.arrived
    | refilled hnext hused hcall =>
        have hcall' := hcall
        rw [hfetch] at hcall'
        have hcome : HasCome (t.nextHits.map Hit.number)
            (.ok ((t.nextHits.map Hit.number).map recordOf)) = true := by
          simp [HasCome]
        show arrivals _ = slices t.batchSize t.hits (t.batches + 1)
        rw [account_of_call hcall', arrivals_snoc, hcome, if_pos rfl, h.arrived, slices_succ,
          h.sound.nextHits_eq hnext hused]
    | failed _ _ hcall hcome =>
        rw [hfetch] at hcall
        show arrivals _ = slices t.batchSize t.hits t.batches
        rw [account_of_call hcall, arrivals_snoc, hcome, h.arrived]
        simp

/-- A call that asks for a batch enters it into the account, and a call that
fails has asked for the next slice. -/
theorem account_of_failed (hfetch : t.fetch = accounted fetch) (hsound : t.Sound recordOf)
    {fault : Fault} (hstep : Stepped t w recordOf (.error fault) u v) :
    t.position < t.hits.length ∧ t.position = t.batches * t.batchSize ∧
      v.state.2 = w.state.2 ++ [⟨t.nextHits.map Hit.number, false⟩] := by
  cases hstep with
  | failed hnext hused hcall hcome =>
      rw [hfetch] at hcall
      refine ⟨hnext, hsound.position_of_usedUp hnext hused, ?_⟩
      show _ = _
      rw [account_of_call hcall, hcome]

/-- Behind a fault, the next call asks for the same slice. -/
theorem account_of_retry (hfetch : t.fetch = accounted fetch) (hsound : t.Sound recordOf)
    (hnext : t.position < t.hits.length) (hused : t.position = t.batches * t.batchSize)
    (hstep : Stepped t w recordOf answer u v) :
    ∃ came, v.state.2 = w.state.2 ++ [⟨t.nextHits.map Hit.number, came⟩] := by
  have hlength := hsound.length_batch
  cases hstep with
  | ended hend => omega
  | given _ hinside => omega
  | refilled _ _ hcall =>
      rw [hfetch] at hcall
      exact ⟨_, account_of_call hcall⟩
  | failed _ _ hcall _ =>
      rw [hfetch] at hcall
      exact ⟨_, account_of_call hcall⟩

end Account

/-! ## Sources that do not fail -/

/-- A dependable source makes no call fail. -/
theorem Stepped.not_failed {s t : HitStream σ} {w v : World σ} {recordOf : Int → Record}
    {fault : Fault} (hstep : Stepped s w recordOf (.error fault) t v) : ¬ Dependable s.fetch := by
  cases hstep with
  | failed _ _ hcall hcome =>
      intro hdependable
      have hcome' := hdependable (s.nextHits.map Hit.number) w.state
      rw [hcall, hcome] at hcome'
      cases hcome'

/-- An answer that is no fault is the record at the position, or the end. -/
theorem Stepped.answer_eq {s t : HitStream σ} {w v : World σ} {recordOf : Int → Record}
    {record : Option Record} (hstep : Stepped s w recordOf (.ok record) t v) :
    record = (s.listed recordOf)[s.position]? ∧ t.position = min (s.position + 1) s.hits.length := by
  cases hstep with
  | ended hend =>
      refine ⟨?_, by omega⟩
      rw [hend, ← length_listed s recordOf, List.getElem?_eq_none le_rfl]
  | given hnext => exact ⟨rfl, by show s.position + 1 = _; omega⟩
  | refilled hnext => exact ⟨rfl, by show s.position + 1 = _; omega⟩

theorem Dependable.accounted {fetch : List Int → Call σ (List Record)} (h : Dependable fetch) :
    Dependable (accounted fetch) := by
  intro numbers state
  rw [on_accounted]
  exact h numbers state.1

/-- The first answers of a stream without faults: its records, one by one, and then
its end. -/
def plainAnswers (records : List Record) (n : Nat) : List Answer :=
  (List.range n).map fun k => .ok records[k]?

theorem plainAnswers_succ (records : List Record) (n : Nat) :
    plainAnswers records (n + 1) = plainAnswers records n ++ [.ok records[n]?] := by
  rw [plainAnswers, List.range_succ, List.map_append]
  rfl

/-- The stream has given its records one by one. -/
structure Prompt (records : List Record) (answers : List Answer) (t : HitStream σ) : Prop where
  position : t.position = min answers.length records.length
  answers : answers = plainAnswers records answers.length

theorem prompt_atStart (fetch : List Int → Call σ (List Record)) (hits : List Hit)
    (collection : String) (batchSize : Nat) (records : List Record) :
    (atStart fetch hits collection batchSize).Prompt records [] :=
  ⟨(Nat.zero_min _).symm, rfl⟩

theorem Prompt.step {records : List Record} {answers : List Answer} {t u : HitStream σ}
    {w v : World σ} {recordOf : Int → Record} {answer : Answer} (h : t.Prompt records answers)
    (hlisted : t.listed recordOf = records) (hdependable : Dependable t.fetch)
    (hstep : Stepped t w recordOf answer u v) : u.Prompt records (answers ++ [answer]) := by
  obtain ⟨record, rfl⟩ : ∃ record, answer = .ok record := by
    cases answer with
    | error fault => exact absurd hdependable hstep.not_failed
    | ok record => exact ⟨record, rfl⟩
  obtain ⟨hanswer, hposition⟩ := hstep.answer_eq
  have hrecord : records[t.position]? = records[answers.length]? := by
    rw [h.position]
    rcases Nat.le_total answers.length records.length with hle | hle
    · rw [Nat.min_eq_left hle]
    · rw [Nat.min_eq_right hle, List.getElem?_eq_none le_rfl, List.getElem?_eq_none hle]
  constructor
  · rw [hposition, ← length_listed t recordOf, hlisted, h.position, List.length_append,
      List.length_singleton]
    omega
  · rw [List.length_append, List.length_singleton, plainAnswers_succ, ← h.answers, hanswer,
      hlisted, hrecord]

/-! ## What is kept despite faults -/

/-- The record that a hit stands for in a source: as it is there, but with the
score of the hit and the name of the source. -/
def found (recordOf : Int → Record) (collection : String) (h : Hit) : Record :=
  { recordOf h.number with score := h.score, collection := some collection }

/-- What is seen of a stream of some hits, behind some answers of `next`, and of
the account of its source. -/
structure Persists (recordOf : Int → Record) (hits : List Hit) (collection : String)
    (batchSize : Nat) (answers : List Answer) (t : HitStream (σ × List Fetch))
    (w : World (σ × List Fetch)) : Prop where
  /-- The records that were given are the first ones of the list. -/
  given : recordsIn answers = (hits.map (found recordOf collection)).take t.position
  /-- There are more exactly if not all have been given. -/
  hasNext_iff : t.hasNext = true ↔ recordsIn answers ≠ hits.map (found recordOf collection)
  /-- The batches that have come are the slices of the hits, one after the other,
  each of them once, and as many as it takes for the records given. -/
  arrived : arrivals w.state.2 = slices batchSize hits (partsFor batchSize t.position)
  /-- The end is told when all have been given. -/
  ended : ∀ u v, t.next.run w = ((.ok none, u), v) →
    recordsIn answers = hits.map (found recordOf collection)
  /-- A fault is that of the source, which was asked for the slice at the position;
  it leaves the stream as it was, and the next call asks for the same slice. -/
  failed : ∀ fault u v, t.next.run w = ((.error fault, u), v) →
    (∃ reason, fault = .retrieval collection reason) ∧ u = t ∧
      v.state.2 = w.state.2 ++ [⟨((hits.drop t.position).take batchSize).map Hit.number, false⟩] ∧
      ∃ came, (u.next.run v).2.state.2 =
        v.state.2 ++ [⟨((hits.drop t.position).take batchSize).map Hit.number, came⟩]

theorem InStep.persists {fetch : List Int → Call σ (List Record)} {recordOf : Int → Record}
    {hits : List Hit} {collection : String} {batchSize : Nat} {answers : List Answer}
    {t : HitStream (σ × List Fetch)} {w : World (σ × List Fetch)}
    (h : InStep (atStart (accounted fetch) hits collection batchSize) recordOf answers t w) :
    Persists recordOf hits collection batchSize answers t w := by
  obtain ⟨hsound, hsource, hgiven, harrived⟩ := h
  have hlisted : t.listed recordOf = hits.map (found recordOf collection) :=
    hsource.listed recordOf
  have hhits : t.hits = hits := hsource.hits
  have hsize : t.batchSize = batchSize := hsource.batchSize
  have hcollection : t.collection = collection := hsource.collection
  have hwindow : t.nextHits = (hits.drop t.position).take batchSize := by
    rw [nextHits, hhits, hsize]
  have hall : recordsIn answers = hits.map (found recordOf collection) ↔
      t.position = t.hits.length := by
    have hwithin := hsound.within
    rw [hgiven, ← hlisted, List.take_eq_self_iff, length_listed]
    omega
  refine ⟨by rw [hgiven, hlisted], ?_, ?_, ?_, ?_⟩
  · have hwithin := hsound.within
    rw [ne_eq, hall, hasNext, decide_eq_true_iff]
    omega
  · rw [harrived, hsound.batches_eq, hhits, hsize]
  · intro u v hnext
    obtain ⟨answer, u', v', hrun, hstep⟩ := hsound.stepped w
    rw [hrun, Prod.mk.injEq, Prod.mk.injEq] at hnext
    obtain ⟨⟨rfl, rfl⟩, rfl⟩ := hnext
    rw [hall]
    generalize hanswer : (Except.ok none : Answer) = answer at hstep
    cases hstep with
    | ended hend => exact hend
    | failed => cases hanswer
    | given hlt =>
        rw [List.getElem?_eq_getElem (by rwa [length_listed])] at hanswer
        cases hanswer
    | refilled hlt =>
        rw [List.getElem?_eq_getElem (by rwa [length_listed])] at hanswer
        cases hanswer
  · intro fault u v hnext
    obtain ⟨answer, u', v', hrun, hstep⟩ := hsound.stepped w
    rw [hrun, Prod.mk.injEq, Prod.mk.injEq] at hnext
    obtain ⟨⟨rfl, rfl⟩, rfl⟩ := hnext
    obtain ⟨hlt, hused, haccount⟩ := account_of_failed hsource.fetch hsound hstep
    have hsame : u' = t ∧ ∃ reason, fault = .retrieval t.collection reason := by
      cases hstep with
      | failed _ _ _ _ reason => exact ⟨rfl, reason, rfl⟩
    obtain ⟨rfl, hfault⟩ := hsame
    obtain ⟨answer, u, v, hrun', hstep'⟩ := hsound.stepped v'
    rw [← hwindow]
    rw [hcollection] at hfault
    refine ⟨hfault, rfl, haccount, ?_⟩
    rw [hrun']
    exact account_of_retry hsource.fetch hsound hlt hused hstep'

/-- **Nothing is lost or repeated, whatever the source does.**  It may fail, or be
short of records, at any call and in any pattern, so long as the right number of
records are the right ones.  Then after any number of calls of `next` the records
given are the first ones of the list, and the stream and the account of its
source are as `Persists` says.  If the source never fails, the answers are the
records one by one and then the end, whatever the size of the batches. -/
theorem kept_despite_faults {fetch : List Int → Call σ (List Record)} {recordOf : Int → Record}
    (htruthful : Truthful fetch recordOf) (hits : List Hit) (collection : String)
    {batchSize : Int} (hsize : 1 ≤ batchSize) (state : σ) (log : List LogLine) :
    ∃ s, start (accounted fetch) hits collection batchSize = .ok s ∧
      ∀ n, ∃ answers t w, (nextTimes n s).run ⟨(state, []), log⟩ = ((answers, t), w) ∧
        Persists recordOf hits collection batchSize.toNat answers t w ∧
        (Dependable fetch →
          answers = plainAnswers (hits.map (found recordOf collection)) n) := by
  refine ⟨_, start_of_pos hsize (accounted fetch) hits collection, fun n => ?_⟩
  have hpos : 0 < batchSize.toNat := by omega
  have hstart : InStep (atStart (accounted fetch) hits collection batchSize.toNat) recordOf []
      (atStart (accounted fetch) hits collection batchSize.toNat)
      (⟨(state, []), log⟩ : World (σ × List Fetch)) :=
    ⟨sound_atStart htruthful.accounted hits collection hpos, .refl _, rfl, rfl⟩
  obtain ⟨answers, t, w, hrun, hlength, hinstep, hprompt⟩ := run_nextTimes
    (I := fun answers t w =>
      InStep (atStart (accounted fetch) hits collection batchSize.toNat) recordOf answers t w ∧
        (Dependable fetch → t.Prompt (hits.map (found recordOf collection)) answers))
    ⟨hstart, fun _ => prompt_atStart ..⟩ (fun answers t v ⟨hinstep, hprompt⟩ => by
      obtain ⟨answer, u, v', hnext, hstep⟩ := hinstep.sound.stepped v
      have hfetch : t.fetch = accounted fetch := hinstep.sameSource.fetch
      have hlisted : t.listed recordOf = hits.map (found recordOf collection) :=
        hinstep.sameSource.listed recordOf
      refine ⟨answer, u, v', hnext, hinstep.step rfl hstep, fun hdependable => ?_⟩
      exact (hprompt hdependable).step hlisted (hfetch ▸ hdependable.accounted) hstep) n
  exact ⟨answers, t, w, hrun, hinstep.persists, fun h => hlength ▸ (hprompt h).answers⟩

/-! ### A source that fails now and then -/

open MultiStream (itemOf)

/-- A source that fails, then is one record short, then answers, and so on. -/
def flickering (records : List Record) (numbers : List Int) : Call Nat (List Record) := do
  let calls ← get
  set (calls + 1)
  if calls % 3 = 0 then throw (.adapter "segment unavailable")
  else if calls % 3 = 1 then return (numbers.map (itemOf records)).dropLast
  else return numbers.map (itemOf records)

/-- Being short does not make it answer with other records. -/
theorem truthful_flickering (records : List Record) :
    Truthful (flickering records) (itemOf records) := by
  intro numbers calls found calls' hcall hlength
  have hset : Call.on (set (calls + 1) : Call Nat PUnit) calls = (.ok ⟨⟩, calls + 1) := rfl
  unfold flickering at hcall
  rw [Call.on_bind_ok (Call.on_get calls), Call.on_bind_ok hset] at hcall
  split at hcall
  · cases hcall
  · split at hcall
    · obtain ⟨hfound, -⟩ := Prod.mk.inj hcall
      obtain rfl := Except.ok.inj hfound
      rw [List.length_dropLast, List.length_map] at hlength
      have hnil : numbers = [] := List.length_eq_zero_iff.1 (by omega)
      rw [hnil]
      rfl
    · obtain ⟨hfound, -⟩ := Prod.mk.inj hcall
      exact (Except.ok.inj hfound).symm

/-- A source that has its records at hand is truthful and never fails. -/
theorem truthful_pure (recordOf : Int → Record) :
    Truthful (fun places => (pure (places.map recordOf) : Call σ (List Record))) recordOf :=
  fun _ _ _ _ hcall _ => (Except.ok.inj (Prod.mk.inj hcall).1).symm

theorem dependable_pure (recordOf : Int → Record) :
    Dependable fun places => (pure (places.map recordOf) : Call σ (List Record)) := by
  intro places _
  simp [HasCome]

/-- A record without a score, as it is stored. -/
def login (user : String) : Record := { (default : Record) with raw := user }

/-- A record as it is found in `auth`. -/
def loginFound (user : String) (score : Int) : Record :=
  ⟨user, none, none, some "auth", .ofInt score, .empty⟩

/-- Three records. -/
def logins : List Record := [login "ann", login "bob", login "cy"]

/-- Hits on them, the best one first. -/
def loginHits : List Hit := [⟨2, .ofInt 3⟩, ⟨0, .ofInt 2⟩, ⟨1, .ofInt 1⟩]

/-- Two batches of which each comes at the third attempt, and the same records
without faults. -/
theorem kept_while_flickering :
    (Truthful (flickering logins) (itemOf logins) ∧ (1 : Int) ≤ 2 ∧
      ∃ s, start (accounted (flickering logins)) loginHits "auth" 2 = .ok s ∧
        ∃ answers t w, (nextTimes 7 s).run ⟨(0, []), []⟩ = ((answers, t), w) ∧
          Persists (itemOf logins) loginHits "auth" 2 answers t w ∧
          recordsIn answers = [loginFound "cy" 3, loginFound "ann" 2, loginFound "bob" 1]) ∧
    ∃ s, start (accounted fun places => (pure (places.map (itemOf logins)) : Call Unit _))
        loginHits "auth" 2 = .ok s ∧
      ∃ answers t w, (nextTimes 4 s).run ⟨((), []), []⟩ = ((answers, t), w) ∧
        answers = [.ok (some (loginFound "cy" 3)), .ok (some (loginFound "ann" 2)),
          .ok (some (loginFound "bob" 1)), .ok none] := by
  refine ⟨⟨truthful_flickering logins, by decide, ?_⟩, ?_⟩
  · obtain ⟨s, hs, hkept⟩ := kept_despite_faults (truthful_flickering logins) loginHits
      "auth" (by decide : (1 : Int) ≤ 2) 0 []
    obtain ⟨answers, t, w, hrun, hpersists, -⟩ := hkept 7
    refine ⟨s, hs, answers, t, w, hrun, hpersists, ?_⟩
    rw [start_of_pos (by decide), Except.ok.injEq] at hs
    have hanswers : answers = ((nextTimes 7 s).run ⟨(0, []), []⟩).1.1 := by rw [hrun]
    rw [hanswers, ← hs]
    decide +kernel
  · obtain ⟨s, hs, hkept⟩ := kept_despite_faults (truthful_pure (σ := Unit) (itemOf logins))
      loginHits "auth" (by decide : (1 : Int) ≤ 2) () []
    obtain ⟨answers, t, w, hrun, -, hanswers⟩ := hkept 4
    refine ⟨s, hs, answers, t, w, hrun, (hanswers (dependable_pure _)).trans ?_⟩
    decide +kernel

end HitStream

end PipeQuery
