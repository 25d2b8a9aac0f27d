import PipeQuery.Proofs.Building
import PipeQuery.Proofs.CacheCalls
import PipeQuery.Proofs.Invariants
import PipeQuery.Proofs.Merging
import PipeQuery.Platform.Standard
import Mathlib.Control.Monad.Basic

/-!
# Leases end with the search

A search leases its sources one after the other, and may fail between any two of
them, while it counts, while it asks for hits, or as late as in the merge, when
records are fetched.  The adapter of this file is any adapter at all: each of
its calls may answer, fail and change what it remembers, in any way.

* `Sourcing.SameLeases`: all leases are as they were.  No call to the adapter
  changes that (`keeps_sameLeases`), so neither does a stream that fetches
  through such calls.
* `acquire?_cases_of_any`, `lent_release`: one lease more, or none at all; one
  lease less, whatever the closing of the reader comes to.
* `balanced_withSources`: the leases of a loop end with it, by induction on the
  sources.
* `leases_end`: the leases of a search end with it; and a search with a stage
  that is not built fails with the fault of the leftmost such stage, before it
  asks the adapter for anything.
-/

namespace PipeQuery

variable {σ ρ α β : Type}

theorem modify_append_of_lt {f : α → α} {i : Nat} {front : List α} (h : i < front.length)
    (rest : List α) : (front ++ rest).modify i f = front.modify i f ++ rest := by
  refine List.ext_getElem? fun j => ?_
  rw [List.getElem?_modify]
  rcases Nat.lt_or_ge j front.length with hj | hj
  · rw [List.getElem?_append_left hj, List.getElem?_append_left (by simpa using hj),
      List.getElem?_modify]
  · have hij : ¬ i = j := by omega
    rw [List.getElem?_append_right hj, List.getElem?_append_right (by simpa using hj)]
    simp [hij]

namespace Sourcing

/-- The readers that were opened, each with the number of its leases. -/
def lent (s : Sourcing σ ρ) : List (ρ × Nat) := s.cache.entries.map fun e => (e.reader, e.leases)

/-- Every reader is leased as often as before, and what was opened since is
leased to nobody. -/
def SameLeases (s t : Sourcing σ ρ) : Prop :=
  ∃ opened : List ρ, t.lent = s.lent ++ opened.map fun reader => (reader, 0)

theorem SameLeases.of_lent_eq {s t : Sourcing σ ρ} (h : t.lent = s.lent) : s.SameLeases t :=
  ⟨[], by rw [h, List.map_nil, List.append_nil]⟩

theorem SameLeases.refl (s : Sourcing σ ρ) : s.SameLeases s := .of_lent_eq rfl

theorem SameLeases.trans {s t u : Sourcing σ ρ} (h : s.SameLeases t) (h' : t.SameLeases u) :
    s.SameLeases u := by
  obtain ⟨opened, hopened⟩ := h
  obtain ⟨opened', hopened'⟩ := h'
  exact ⟨opened ++ opened', by rw [hopened', hopened, List.map_append, List.append_assoc]⟩

/-! ## Calls to the cache -/

theorem on_changeEntry (id : LeaseId) (f : CacheEntry ρ → CacheEntry ρ) (s : Sourcing σ ρ) :
    Call.on (modifyCache fun cache => cache.modifyEntry id f) s =
      (.ok (), { s with cache := s.cache.modifyEntry id f }) := rfl

theorem lent_modifyEntry (f : CacheEntry ρ → CacheEntry ρ) (g : Nat → Nat)
    (h : ∀ e, ((f e).reader, (f e).leases) = (e.reader, g e.leases)) (id : LeaseId)
    (s : Sourcing σ ρ) :
    lent { s with cache := s.cache.modifyEntry id f } =
      s.lent.modify id fun p => (p.1, g p.2) :=
  map_modify h id s.cache.entries

theorem lent_of_cache_eq {s t : Sourcing σ ρ} (h : t.cache = s.cache) : t.lent = s.lent := by
  rw [lent, lent, h]

/-- A call to the adapter leaves the cache as it is. -/
theorem cache_call (x : Call σ α) (s : Sourcing σ ρ) :
    (Call.on (call x) s).2.cache = s.cache := by
  cases h : Call.on x s.outside with
  | mk outcome outside => rw [on_call h]

theorem cache_closeIfFree (a : Adapter σ ρ) (id : LeaseId) (s : Sourcing σ ρ) :
    (Call.on (closeIfFree a id) s).2.cache = s.cache := by
  rw [closeIfFree, Call.on_bind_ok (on_entryOf? id s)]
  cases s.entryAt? id with
  | none => rfl
  | some e =>
      dsimp only
      split
      · exact cache_call _ s
      · rfl

theorem lent_retire (a : Adapter σ ρ) (id : LeaseId) (s : Sourcing σ ρ) :
    (Call.on (retire a id) s).2.lent = s.lent := by
  rw [retire, Call.on_bind_ok (on_changeEntry id _ s),
    lent_of_cache_eq (cache_closeIfFree a id _)]
  exact (lent_modifyEntry .retire (fun n => n) (fun _ => rfl) id s).trans (List.modify_id _ _)

/-- **One lease less**, whatever the closing of the reader comes to. -/
theorem lent_release (a : Adapter σ ρ) (id : LeaseId) (s : Sourcing σ ρ) :
    (Call.on (release a id) s).2.lent = s.lent.modify id fun p => (p.1, p.2 - 1) := by
  rw [release, Call.on_bind_ok (on_changeEntry id _ s), Call.on_bind_ok (on_entryOf? id _)]
  refine Eq.trans (lent_of_cache_eq ?_) (lent_modifyEntry .giveBack (· - 1) (fun _ => rfl) id s)
  dsimp only
  split
  · split
    · exact cache_closeIfFree a id _
    · rfl
  · rfl

/-! ## Leasing -/

section Leasing

variable {l : List (ρ × Nat)}

theorem keeps_lent {x : Call (Sourcing σ ρ) α} (h : ∀ s, (Call.on x s).2.lent = s.lent) :
    Call.Keeps (fun t => t.lent = l) x fun _ => True :=
  fun s hs => ⟨(h s).trans hs, fun _ _ => trivial⟩

theorem keeps_entryOf? (id : LeaseId) :
    Call.Keeps (fun t : Sourcing σ ρ => t.lent = l) (entryOf? id) fun entry =>
      entry.isSome = true → id < l.length := by
  refine fun t ht => ⟨ht, fun entry h hsome => ?_⟩
  cases h
  obtain ⟨e, he⟩ := Option.isSome_iff_exists.1 hsome
  rw [← ht, lent, List.length_map]
  exact (List.getElem?_eq_some_iff.1 he).1

variable (a : Adapter σ ρ) (source : String)

/-- Looking for a current reader changes no lease. -/
theorem keeps_currentLease? :
    Call.Keeps (fun t : Sourcing σ ρ => t.lent = l) (currentLease? a source) fun found =>
      ∀ lease, found = some lease → lease.id < l.length := by
  unfold currentLease?
  refine .get fun s hs => ?_
  cases s.cache.cached.get? source with
  | none => exact .pure fun _ h => nomatch h
  | some id =>
      refine (keeps_entryOf? id).bind fun entry hid => ?_
      cases entry with
      | none => exact .pure fun _ h => nomatch h
      | some e =>
          refine (keeps_lent fun s => lent_of_cache_eq (cache_call _ s)).bind fun current _ => ?_
          cases current with
          | true =>
              refine .pure fun lease h => ?_
              cases h
              exact hid rfl
          | false =>
              refine (keeps_lent (lent_retire a id)).bind fun _ _ => ?_
              refine (keeps_lent fun _ => rfl).bind fun _ _ => ?_
              exact .pure fun _ h => nomatch h

/-- A reader that is opened is leased to nobody. -/
theorem openLease?_cases (s : Sourcing σ ρ) :
    (∃ lease t, Call.on (openLease? a source) s = (.ok (some lease), t) ∧ s.SameLeases t ∧
      lease.id < t.lent.length) ∨
    ∃ outcome t, Call.on (openLease? a source) s = (outcome, t) ∧ s.SameLeases t ∧
      ∀ lease, outcome ≠ .ok (some lease) := by
  unfold openLease?
  cases hopen : Call.on (call (a.openReader source)) s with
  | mk outcome t =>
      have ht : t.lent = s.lent := by
        have hcache := cache_call (a.openReader source) s
        rw [hopen] at hcache
        exact lent_of_cache_eq hcache
      cases outcome with
      | error fault =>
          rw [Call.on_bind_error hopen]
          exact .inr ⟨_, t, rfl, .of_lent_eq ht, fun _ h => nomatch h⟩
      | ok reader =>
          rw [Call.on_bind_ok hopen]
          cases reader with
          | none => exact .inr ⟨_, t, rfl, .of_lent_eq ht, fun _ h => nomatch h⟩
          | some reader =>
              have hopened : Sourcing.lent (⟨t.outside, ⟨t.cache.entries ++ [⟨reader, 0, false⟩],
                  t.cache.cached.insert source t.cache.entries.length⟩⟩ : Sourcing σ ρ) =
                  s.lent ++ [(reader, 0)] := by
                rw [← ht, lent, lent, List.map_append]
                rfl
              refine .inl ⟨⟨t.cache.entries.length, reader⟩, _, rfl, ⟨[reader], hopened⟩, ?_⟩
              rw [hopened, ← ht, lent]
              simp

/-- **One lease more, or none.** -/
theorem acquire?_cases_of_any (s : Sourcing σ ρ) :
    (∃ lease t u, Call.on (acquire? a source) s = (.ok (some lease), u) ∧ s.SameLeases t ∧
      lease.id < t.lent.length ∧ u.lent = t.lent.modify lease.id fun p => (p.1, p.2 + 1)) ∨
    ∃ outcome t, Call.on (acquire? a source) s = (outcome, t) ∧ s.SameLeases t ∧
      ∀ lease, outcome ≠ .ok (some lease) := by
  have hlend : ∀ (lease : Lease ρ) (t : Sourcing σ ρ), ∃ u, Call.on (do
      modifyCache fun cache =>
        cache.modifyEntry lease.id fun entry => { entry with leases := entry.leases + 1 }
      return some lease : Call (Sourcing σ ρ) (Option (Lease ρ))) t = (.ok (some lease), u) ∧
      u.lent = t.lent.modify lease.id fun p => (p.1, p.2 + 1) := fun lease t =>
    ⟨_, rfl, lent_modifyEntry .lend (· + 1) (fun _ => rfl) lease.id t⟩
  obtain ⟨ht, hlease⟩ := keeps_currentLease? (l := s.lent) a source s rfl
  unfold acquire?
  cases hcurrent : Call.on (currentLease? a source) s with
  | mk outcome t =>
      rw [hcurrent] at ht hlease
      cases outcome with
      | error fault =>
          rw [Call.on_bind_error hcurrent]
          exact .inr ⟨_, t, rfl, .of_lent_eq ht, fun _ h => nomatch h⟩
      | ok cached =>
          rw [Call.on_bind_ok hcurrent]
          cases cached with
          | some lease =>
              obtain ⟨u, hu, hlent⟩ := hlend lease t
              refine .inl ⟨lease, t, u, hu, .of_lent_eq ht, ?_, hlent⟩
              rw [ht]
              exact hlease _ rfl lease rfl
          | none =>
              have hst : s.SameLeases t := .of_lent_eq ht
              dsimp only
              rcases openLease?_cases a source t with
                ⟨lease, v, hopen, hv, hlt⟩ | ⟨outcome, v, hopen, hv, hnone⟩
              · obtain ⟨u, hu, hlent⟩ := hlend lease v
                rw [Call.on_bind_ok hopen]
                exact .inl ⟨lease, v, u, hu, hst.trans hv, hlt, hlent⟩
              · cases outcome with
                | error fault =>
                    rw [Call.on_bind_error hopen]
                    exact .inr ⟨_, v, rfl, hst.trans hv, fun _ h => nomatch h⟩
                | ok found =>
                    cases found with
                    | some lease => exact absurd rfl (hnone lease)
                    | none =>
                        rw [Call.on_bind_ok hopen]
                        exact .inr ⟨_, v, rfl, hst.trans hv, fun _ h => nomatch h⟩

/-- A lease that is given back leaves nothing behind, whatever was opened while
it was held. -/
theorem SameLeases.of_giveBack {s t u v : Sourcing σ ρ} {id : LeaseId} (hst : s.SameLeases t)
    (hlt : id < t.lent.length) (hlend : u.lent = t.lent.modify id fun p => (p.1, p.2 + 1))
    (huv : u.SameLeases v) (a : Adapter σ ρ) : s.SameLeases (Call.on (release a id) v).2 := by
  obtain ⟨opened, hopened⟩ := huv
  refine hst.trans ⟨opened, ?_⟩
  rw [lent_release, hopened, hlend, modify_append_of_lt (by simpa using hlt),
    List.modify_modify_eq]
  congr 1
  exact List.modify_id _ _

end Leasing

end Sourcing

/-! ## Searches -/

namespace SearchService

/-- Every call of an adapter leaves the leases as they are. -/
theorem keeps_sameLeases (s : Sourcing σ ρ) (x : Call σ α) :
    Call.Keeps s.SameLeases (Sourcing.call x) fun _ => True :=
  fun t ht => ⟨ht.trans (.of_lent_eq (Sourcing.lent_of_cache_eq (Sourcing.cache_call x t))),
    fun _ _ => trivial⟩

/-- **The leases of a loop end with it**, wherever it fails. -/
theorem balanced_withSources {a : Adapter σ ρ}
    {visit : String → ρ → Gathering σ ρ → Searching σ ρ (Gathering σ ρ)}
    {finish : Gathering σ ρ → Searching σ ρ α}
    (hvisit : ∀ (s : Sourcing σ ρ) source reader g, Gathering.FetchesOutside g →
      Call.Keeps (Run.Within s.SameLeases) (visit source reader g) Gathering.FetchesOutside)
    (hfinish : ∀ (s : Sourcing σ ρ) g, Gathering.FetchesOutside g →
      Call.Keeps (Run.Within s.SameLeases) (finish g) fun _ => True)
    (sources : List String) : ∀ (s : Sourcing σ ρ) g, Gathering.FetchesOutside g →
      Call.Keeps (Run.Within s.SameLeases) (withSources a visit finish sources g) fun _ => True := by
  induction sources with
  | nil => exact fun s g hg => hfinish s g hg
  | cons source rest ih =>
      intro s g hg w hw
      refine ⟨?_, fun _ _ => trivial⟩
      unfold withSources
      rcases Sourcing.acquire?_cases_of_any a source w.state with
        ⟨lease, t, u, hacquire, ht, hlt, hlend⟩ | ⟨outcome, t, hacquire, ht, hnone⟩
      · rw [Call.on_bind_ok (Run.on_onState hacquire)]
        dsimp only
        -- what is done with the lease keeps the leases as they are while it is held
        have hbody : Call.Keeps (Run.Within u.SameLeases) (do
            withSources a visit finish rest (← visit source lease.reader g)) fun _ => True :=
          (hvisit u source lease.reader g hg).bind fun g' hg' => ih u g' hg'
        have hv := (hbody { w with state := u } (.refl u)).1
        rw [Run.on_andLast_snd]
        generalize (Call.on (do withSources a visit finish rest (← visit source lease.reader g))
          { w with state := u }).2 = v at hv ⊢
        show s.SameLeases (Call.on (Run.onState (Sourcing.release a lease.id)) v).2.state
        have hend := hw.trans (Sourcing.SameLeases.of_giveBack ht hlt hlend hv a)
        cases hrelease : Call.on (Sourcing.release a lease.id) v.state with
        | mk outcome t' =>
            rw [hrelease] at hend
            rw [Run.on_onState hrelease]
            exact hend
      · cases outcome with
        | error fault =>
            rw [Call.on_bind_error (Run.on_onState hacquire)]
            exact hw.trans ht
        | ok found =>
            cases found with
            | some lease => exact absurd rfl (hnone lease)
            | none =>
                rw [Call.on_bind_ok (Run.on_onState hacquire)]
                exact (((Run.keeps_warn _ _).bind fun _ _ => ih s g hg) { w with state := t }
                  (hw.trans ht)).1

/-- A page. -/
theorem balanced_searchPage (service : SearchService σ ρ) (r : SearchRequest) (filter : String)
    (s : Sourcing σ ρ) :
    Call.Keeps (Run.Within s.SameLeases) (service.searchPage r filter) fun _ => True := by
  unfold searchPage
  dsimp only
  refine (balanced_withSources ?_ ?_ _ s .empty fun _ h => nomatch h).bind fun _ _ => .pure trivial
  · exact fun s source reader g => keeps_visitForPage (keeps_sameLeases s) service _ source reader
  · exact fun s g hg =>
      (keeps_pageRecords (keeps_sameLeases s) _ r.page hg).bind fun _ _ => .pure trivial

/-- A pipeline. -/
theorem balanced_searchPiped (service : SearchService σ ρ) (r : SearchRequest) (filter : String)
    (stages : List Stage) (s : Sourcing σ ρ) :
    Call.Keeps (Run.Within s.SameLeases) (service.searchPiped r filter stages) fun _ => True := by
  unfold searchPiped
  refine (Run.keeps_ofExcept _).bind fun m _ => ?_
  refine (balanced_withSources ?_ ?_ _ s .empty fun _ h => nomatch h).bind fun _ _ => ?_
  · exact fun s source reader g =>
      keeps_visitForPipeline (keeps_sameLeases s) service r filter m source reader
  · exact fun s g hg =>
      (keeps_records (keeps_start (keeps_sameLeases s) hg _) none).bind fun _ _ => .pure trivial
  · exact (Run.keeps_ofLogged _).bind fun _ _ => .pure trivial

theorem balanced_search [Platform] (service : SearchService σ ρ) (r : SearchRequest) (s : Sourcing σ ρ) :
    Call.Keeps (Run.Within s.SameLeases) (service.search r) fun _ => True := by
  unfold search
  dsimp only
  split
  · exact (Run.keeps_ofLogged _).bind fun stages _ => balanced_searchPiped service r _ stages s
  · exact balanced_searchPage service r _ s

/-- A search whose stages are not built writes what building them writes, and
does nothing else. -/
theorem on_search_of_buildAll_eq_error [Platform] {settings : SearchSettings} {r : SearchRequest}
    {fault : Fault} {lines : List LogLine}
    (h : (Stage.buildAll settings.timezone (Query.read r.query).stages).outcome =
      (.error fault, lines)) (a : Adapter σ ρ) (w : World (Sourcing σ ρ)) :
    Call.on (search ⟨a, settings⟩ r) w = (.error fault, ⟨w.state, w.log ++ lines⟩) := by
  have hstages : (Query.read r.query).hasStages = true := by
    unfold Query.hasStages
    cases hnone : (Query.read r.query).stages with
    | nil =>
        rw [hnone] at h
        cases h
    | cons spec rest => rfl
  have hbuild : Call.on (Stage.buildAll settings.timezone (Query.read r.query).stages) w.log =
      (.error fault, w.log ++ lines) := by
    rw [Stage.appends_buildAll, h]
  unfold search
  dsimp only
  rw [if_pos hstages]
  exact Call.on_bind_error (Run.on_ofLogged hbuild)

/-- **The leases of a search end with it**, whether it answers or fails, and
wherever it fails: every reader is leased as often as before, and what was opened
on the way is leased to nobody.

If some stage is not built, the search fails with the fault of the leftmost such
stage and changes nothing but the log.  That it asks the adapter for nothing is
said by the order of the quantifiers: the lines are the same for all adapters,
and one that remembers all that it is asked for has nothing new to remember. -/
theorem leases_end [Platform] (settings : SearchSettings) (r : SearchRequest)
    (w : World (Sourcing σ ρ)) :
    (∀ a : Adapter σ ρ, w.state.SameLeases (Call.on (search ⟨a, settings⟩ r) w).2.state) ∧
    ((∃ spec ∈ (Query.read r.query).stages, ∃ fault,
        Stage.built settings.timezone spec = .error fault) →
      ∃ before spec behind fault lines,
        (Query.read r.query).stages = before ++ spec :: behind ∧
        (∀ b ∈ before, ∃ stage, Stage.built settings.timezone b = .ok stage) ∧
        Stage.built settings.timezone spec = .error fault ∧
        ∀ a : Adapter σ ρ,
          Call.on (search ⟨a, settings⟩ r) w = (.error fault, ⟨w.state, w.log ++ lines⟩)) := by
  refine ⟨fun a => (balanced_search ⟨a, settings⟩ r w.state w (.refl _)).1, ?_⟩
  rintro ⟨spec, hspec, fault, hfault⟩
  cases hbuild : (Stage.buildAll settings.timezone (Query.read r.query).stages).outcome with
  | mk outcome lines =>
      cases outcome with
      | ok stages =>
          -- then every stage would be built
          obtain ⟨_, _, hok⟩ := (Stage.built_of_buildAll (congrArg Prod.fst hbuild)).1 spec hspec
          rw [hfault] at hok
          cases hok
      | error first =>
          obtain ⟨before, spec', behind, hsplit, hbefore, hfirst⟩ :=
            (Stage.buildAll_eq_error_iff []).1 (congrArg Prod.fst hbuild)
          exact ⟨before, spec', behind, first, lines, hsplit, hbefore, hfirst,
            fun a => on_search_of_buildAll_eq_error hbuild a w⟩

/-- Neither the second stage nor the third is built. -/
def mistaken : SearchRequest := .ofQuery "* | stats count | explode things | timechart span=0m count"

/-- A reader that is leased to someone else. -/
def leasedOnce : World (Sourcing MemoryIndex MemoryReader) :=
  ⟨⟨.ofSources [("app", [])], ⟨[⟨⟨0, "app", [], 1⟩, 1, false⟩], .ofList [("app", 0)]⟩⟩, []⟩

theorem unknown_of_mistaken :
    ∃ lines, Call.on (search ⟨MemoryIndex.adapter, .standard⟩ mistaken) leasedOnce =
      (.error (.unknownCommand "explode"), ⟨leasedOnce.state, leasedOnce.log ++ lines⟩) := by
  have hbuilt : (Call.on (Stage.buildAll SearchSettings.standard.timezone
      (Query.read mistaken.query).stages) []).1 = .error (.unknownCommand "explode") := by
    decide +kernel
  obtain ⟨before, spec, behind, fault, lines, hsplit, hbefore, hfault, hsearch⟩ :=
    (leases_end .standard mistaken leasedOnce).2
      ⟨⟨"explode", ["things"], .empty⟩, by decide +kernel, .unknownCommand "explode",
        by decide +kernel⟩
  have hfirst := (Stage.buildAll_eq_error_iff []).2 ⟨before, spec, behind, hsplit, hbefore, hfault⟩
  obtain rfl : Fault.unknownCommand "explode" = fault :=
    Except.error.inj (hbuilt.symm.trans hfirst)
  exact ⟨lines, hsearch MemoryIndex.adapter⟩

end SearchService

end PipeQuery
