import PipeQuery.Proofs.StreamBooks
import Mathlib.Algebra.Order.BigOperators.Group.List

/-!
# When a stream looks finished

A stream over several sources says that it is at its end by `has_next` being
false, or by giving no record.  That happens when all records of all sources were
given, and, in a merge, after any fault: a merge that has failed gives nothing
more, whatever is left of its sources.  Sources that are read one after the other
go on after a fault.

* `MultiStream.interleaving_of_allGiven`: a log that has all records is an
  interleaving of the sources.
* `MultiStream.Books.interleaving_iff`: and nothing less is one.
* `MultiStream.isEnd_iff`: when a reply says that the end has come.
-/

namespace PipeQuery

namespace MultiStream

open HitStream (Begins flickering truthful_flickering logins)

variable {σ : Type}

/-! ## All records were given -/

section Logs

variable {queues : List (List Record)} {log : List (Nat × Record)}

theorem fromPlace_cons_self (place : Nat) (r : Record) (log : List (Nat × Record)) :
    fromPlace place ((place, r) :: log) = r :: fromPlace place log := by
  simp [fromPlace]

theorem fromPlace_cons_of_ne {place other : Nat} (h : other ≠ place) (r : Record)
    (log : List (Nat × Record)) : fromPlace other ((place, r) :: log) = fromPlace other log := by
  simp [fromPlace, Ne.symm h]

/-- **A log that has all records** is an interleaving of the sources. -/
theorem interleaving_of_allGiven (hknown : ∀ e ∈ log, e.1 < queues.length)
    (h : AllGiven queues log) : Interleaving queues (log.map Prod.snd) := by
  induction log generalizing queues with
  | nil =>
      refine .done fun queue hqueue => ?_
      obtain ⟨place, hplace, rfl⟩ := List.getElem_of_mem hqueue
      have hgiven := h place hplace
      rw [GivenAt, List.getElem?_eq_getElem hplace, Option.some.injEq] at hgiven
      exact hgiven
  | cons e log ih =>
      obtain ⟨place, r⟩ := e
      have hplace : place < queues.length := hknown _ (List.mem_cons_self ..)
      have hqueue : queues[place] = r :: fromPlace place log := by
        have hgiven := h place hplace
        rw [GivenAt, List.getElem?_eq_getElem hplace, Option.some.injEq] at hgiven
        rw [hgiven, fromPlace_cons_self]
      -- the source at the place, without its first record
      have hrest : Interleaving (queues.set place (fromPlace place log)) (log.map Prod.snd) := by
        refine ih (fun e he => ?_) fun other hother => ?_
        · rw [List.length_set]
          exact hknown e (List.mem_cons_of_mem _ he)
        · rw [List.length_set] at hother
          by_cases hne : other = place
          · subst hne
            rw [GivenAt, List.getElem?_set_self hother]
          · have hgiven := h other hother
            rw [GivenAt, fromPlace_cons_of_ne hne] at hgiven
            rw [GivenAt, List.getElem?_set_ne (Ne.symm hne), hgiven]
      rw [List.set_eq_take_append_cons_drop, if_pos hplace] at hrest
      have hsplit : queues = queues.take place ++ (r :: fromPlace place log) ::
          queues.drop (place + 1) := by
        rw [← hqueue, List.getElem_cons_drop, List.take_append_drop]
      rw [hsplit]
      exact .pick hrest

/-- A log is as long as all that it has of its sources. -/
theorem length_log (hknown : ∀ e ∈ log, e.1 < queues.length) :
    log.length = ((List.range queues.length).map fun place => (fromPlace place log).length).sum := by
  have hparts : Interleaving ((List.range queues.length).map fun place => fromPlace place log)
      (log.map Prod.snd) := by
    refine interleaving_of_allGiven (by simpa using hknown) fun place hplace => ?_
    rw [List.length_map, List.length_range] at hplace
    rw [GivenAt, List.getElem?_map, List.getElem?_range hplace]
    rfl
  have hlength := hparts.perm.length_eq
  rw [List.length_map, List.length_flatten, List.map_map] at hlength
  exact hlength

/-- The number of records of all sources, by their places. -/
theorem length_flatten_range (queues : List (List Record)) :
    queues.flatten.length =
      ((List.range queues.length).map fun place => (queues[place]?.getD []).length).sum := by
  rw [List.length_flatten]
  refine congrArg List.sum (List.ext_getElem (by simp) fun place hplace _ => ?_)
  rw [List.length_map] at hplace
  simp [hplace]

end Logs

section Books

variable {starts : List (HitStream σ)} {queues : List (List Record)}
  {comparator : Option Comparator} {log : List (Nat × Record)} {held : Held} {failed : Bool}
  {s : MultiStream σ}

/-- **Nothing less than all records** is an interleaving of the sources. -/
theorem Books.interleaving_iff (h : Books starts queues comparator log held failed s) :
    Interleaving queues (log.map Prod.snd) ↔ AllGiven queues log := by
  refine ⟨fun hinterleaving place hplace => ?_, interleaving_of_allGiven h.knownLog⟩
  by_contra hleft
  rw [GivenAt, List.getElem?_eq_getElem hplace, Option.some.injEq] at hleft
  have hle : ∀ place ∈ List.range queues.length,
      (fromPlace place log).length ≤ (queues[place]?.getD []).length := by
    intro place hplace
    rw [List.mem_range] at hplace
    rw [List.getElem?_eq_getElem hplace]
    exact (h.given_isPrefix (List.getElem?_eq_getElem hplace)).length_le
  have hlt : (fromPlace place log).length < (queues[place]?.getD []).length := by
    rw [List.getElem?_eq_getElem hplace]
    have hfirst := h.given_isPrefix (List.getElem?_eq_getElem hplace)
    exact lt_of_le_of_ne hfirst.length_le fun heq => hleft (hfirst.eq_of_length heq).symm
  have hsum := List.sum_lt_sum _ _ hle ⟨place, List.mem_range.2 hplace, hlt⟩
  have hlength := hinterleaving.perm.length_eq
  rw [List.length_map, length_log h.knownLog, length_flatten_range] at hlength
  exact absurd hlength (ne_of_lt hsum)

end Books

/-! ## The end -/

section End

variable {starts : List (HitStream σ)} {queues : List (List Record)}

/-- **When a stream looks finished.**  The sources may fail, or be short of
records, at any call; the stream is a merge by any comparator or takes one source
after the other; and it has been asked anything in any order, also after faults.
Then the next reply says that the end has come just when all records of all
sources were given, or when a merge has failed before. -/
theorem isEnd_iff (h : List.Forall₂ Begins starts queues) (comparator : Option Comparator)
    (asks : List Ask) (w : World σ) :
    ∃ heard s v, (askAll asks (start starts comparator)).run w = ((heard, s), v) ∧
      heard.map Prod.fst = asks ∧
      ∀ a v, ∃ reply t v', (s.ask a).run v = ((reply, t), v') ∧
        (reply.isEnd = true ↔ Interleaving queues (delivered heard) ∨
          comparator.isSome ∧ hasFailed heard = true) := by
  obtain ⟨heard, s, v, hrun, hasks, log, held, hlog, hbooks⟩ := kept_askAll h comparator asks w
  refine ⟨heard, s, v, hrun, hasks, fun a v => ?_⟩
  obtain ⟨answer, t, v', hpeek, hlooked⟩ := hbooks.peek v
  refine ⟨_, _, v', run_ask hpeek a, ?_⟩
  rw [Ask.isEnd_replyTo, ← hlog, hbooks.interleaving_iff]
  cases hlooked with
  | @record t held' r hpending hbooks' =>
      refine iff_of_false (fun heq => by cases heq) ?_
      rintro (hall | ⟨hmerge, hfailed⟩)
      · exact hbooks'.not_allGiven hpending hall
      · rw [(hbooks'.held_of_pending hpending).2 hmerge] at hfailed
        cases hfailed
  | ended _ _ hend _ => exact iff_of_true rfl hend
  | fault fault _ hleft hbefore _ _ =>
      refine iff_of_false (fun heq => by cases heq) ?_
      rintro (hall | ⟨hmerge, hfailed⟩)
      · exact hleft hall
      · rw [hbefore hmerge] at hfailed
        cases hfailed

end End

/-- Three records of a source that fails at its first call. -/
def flickeringLogins : HitStream Nat := .atStart (flickering logins) (listHits logins) "auth" 2

theorem begins_flickeringLogins :
    List.Forall₂ Begins [flickeringLogins] [logins.map (givenBy "auth")] :=
  .cons ⟨_, _, _, _, _, rfl, by decide, truthful_flickering logins, (map_listHits "auth" logins).symm⟩
    .nil

/-- One call that comes to a fault: after it the merge is at its end with nothing
given, and the source read on its own is not. -/
theorem isEnd_flickeringLogins :
    List.Forall₂ Begins [flickeringLogins] [logins.map (givenBy "auth")] ∧
    (∃ heard s v, (askAll [.next] (start [flickeringLogins]
        (some (Comparator.ofOrder ⟨.score, true⟩)))).run ⟨0, []⟩ = ((heard, s), v) ∧
      delivered heard = [] ∧
        ∃ reply t v', (s.ask .hasNext).run v = ((reply, t), v') ∧ reply.isEnd = true) ∧
    ∃ heard s v, (askAll [.next] (start [flickeringLogins] none)).run ⟨0, []⟩ = ((heard, s), v) ∧
      hasFailed heard = true ∧
        ∃ reply t v', (s.ask .hasNext).run v = ((reply, t), v') ∧ ¬ reply.isEnd = true := by
  refine ⟨begins_flickeringLogins, ?_, ?_⟩
  · obtain ⟨heard, s, v, hrun, -, hnext⟩ := isEnd_iff begins_flickeringLogins
      (some (Comparator.ofOrder ⟨.score, true⟩)) [.next] ⟨0, []⟩
    obtain ⟨reply, t, v', hask, hend⟩ := hnext .hasNext v
    have hheard : heard = ((askAll [.next] (start [flickeringLogins]
        (some (Comparator.ofOrder ⟨.score, true⟩)))).run ⟨0, []⟩).1.1 := by rw [hrun]
    have hgiven : delivered heard = [] ∧ hasFailed heard = true := by
      rw [hheard]
      decide +kernel
    exact ⟨heard, s, v, hrun, hgiven.1, reply, t, v', hask, hend.2 (Or.inr ⟨rfl, hgiven.2⟩)⟩
  · obtain ⟨heard, s, v, hrun, -, hnext⟩ := isEnd_iff begins_flickeringLogins none [.next] ⟨0, []⟩
    obtain ⟨reply, t, v', hask, hend⟩ := hnext .hasNext v
    have hheard : heard = ((askAll [.next] (start [flickeringLogins] none)).run ⟨0, []⟩).1.1 := by
      rw [hrun]
    have hgiven : delivered heard = [] ∧ hasFailed heard = true := by
      rw [hheard]
      decide +kernel
    refine ⟨heard, s, v, hrun, hgiven.2, reply, t, v', hask, ?_⟩
    rw [hend, hgiven.1]
    rintro (hall | ⟨hmerge, -⟩)
    · exact absurd hall.perm.length_eq (by decide)
    · cases hmerge

end MultiStream

end PipeQuery
