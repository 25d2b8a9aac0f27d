import PipeQuery.Proofs.HitStreams
import PipeQuery.Proofs.Ranks
import PipeQuery.Stream.MultiStream
import Mathlib.Data.List.Forall2

/-!
# Several streams as one

Each source gives a list (`HitStream.Gives`), and a stream over several sources
gives those lists one after the other, or merged by a comparator.

* `yields_in_sequence`: without a comparator, the lists follow one another.
* `Merges.yields`: with a comparator, the records come as the lists merge head
  by head (`Merges`), whatever the comparator and the order of the lists.
* `yields_merged`: with a comparator that follows a key, and lists that ascend
  by that key, the records come in the order of the stable sort of the lists
  one after the other; so ties go to the earlier list.
* `Yields.takeNext` and `Yields.drain`: what is taken are the first records, or
  all of them.

The merge keeps one head of each list and owes the successor of the head that
it gave last.  What carries the induction is `Stands`: the heads and the streams
together stand for the lists that are left.
-/

namespace PipeQuery

variable {σ : Type}

/-! ## Changing one item of a list -/

theorem modify_append_cons {α : Type} (f : α → α) (before : List α) (a : α) (after : List α) :
    (before ++ a :: after).modify before.length f = before ++ f a :: after := by
  induction before with
  | nil => rfl
  | cons b before ih =>
      rw [List.cons_append, List.length_cons, List.modify_succ_cons, ih, List.cons_append]

/-- Changing one item before all are mapped, or after it. -/
theorem map_modify {α β : Type} {f : α → β} {g : α → α} {g' : β → β}
    (h : ∀ a, f (g a) = g' (f a)) (place : Nat) (l : List α) :
    (l.modify place g).map f = (l.map f).modify place g' := by
  induction l generalizing place with
  | nil => simp
  | cons a l ih =>
      cases place with
      | zero => simp [h]
      | succ place =>
          rw [List.modify_succ_cons, List.map_cons, ih, List.map_cons, List.modify_succ_cons]

namespace MultiStream

/-- Each source gives its list. -/
def Serve (sources : List (HitStream σ)) (state : σ) (queues : List (List Record)) : Prop :=
  List.Forall₂ (fun source queue => source.Gives state queue) sources queues

/-- Pulled again and again in a state, the streams give these records and then
none. -/
def Yields (state : σ) : List Record → MultiStream σ → Prop
  | [], s => s.pending = none ∧
      ∀ w : World σ, w.state = state → ∃ t, s.pull.run w = ((.ok none, t), w)
  | r :: rest, s => s.pending = none ∧
      ∀ w : World σ, w.state = state →
        ∃ t, s.pull.run w = ((.ok (some r), t), w) ∧ Yields state rest t

/-! ## Taking records -/

section Taking

variable {s : MultiStream σ} {w : World σ} {records : List Record}

theorem Yields.pending_eq_none {state : σ} (h : Yields state records s) : s.pending = none := by
  cases records with
  | nil => exact h.1
  | cons r rest => exact h.1

/-- The next record is the first one. -/
theorem Yields.next_cons {r : Record} {rest : List Record} (h : Yields w.state (r :: rest) s) :
    ∃ t, s.next.run w = ((.ok (some r), t), w) ∧ Yields w.state rest t := by
  obtain ⟨hpending, hpull⟩ := h
  obtain ⟨t, ht, hrest⟩ := hpull w rfl
  have hpeek : s.peek.run w = ((.ok (some r), { t with pending := some r }), w) := by
    unfold peek
    simp only [hpending]
    rw [StateM.run_bind_of_eq ht]
    rfl
  refine ⟨t, ?_, hrest⟩
  unfold next
  rw [StateM.run_bind_of_eq hpeek]
  show ((Except.ok (some r), { t with pending := none }), w) = _
  rw [← hrest.pending_eq_none]

theorem Yields.next_nil (h : Yields w.state [] s) :
    ∃ t, s.next.run w = ((.ok none, t), w) := by
  obtain ⟨hpending, hpull⟩ := h
  obtain ⟨t, ht⟩ := hpull w rfl
  have hpeek : s.peek.run w = ((.ok none, t), w) := by
    unfold peek
    simp only [hpending]
    rw [StateM.run_bind_of_eq ht]
    rfl
  unfold next
  rw [StateM.run_bind_of_eq hpeek]
  exact ⟨_, rfl⟩

/-- Up to `n` records are the first `n`. -/
theorem Yields.takeNext (n : Nat) (h : Yields w.state records s) :
    ∃ t, (MultiStream.takeNext n s).run w = ((.ok (records.take n), t), w) := by
  induction n generalizing s records with
  | zero => exact ⟨s, rfl⟩
  | succ n ih =>
      unfold MultiStream.takeNext
      cases records with
      | nil =>
          obtain ⟨t, ht⟩ := h.next_nil
          rw [StateM.run_bind_of_eq ht]
          exact ⟨t, rfl⟩
      | cons r rest =>
          obtain ⟨t, ht, hrest⟩ := h.next_cons
          obtain ⟨u, hu⟩ := ih hrest
          rw [StateM.run_bind_of_eq ht]
          show ∃ v, ((MultiStream.takeNext n t) >>= _).run w = _
          rw [StateM.run_bind_of_eq hu]
          exact ⟨u, rfl⟩

/-- All records are taken if there are no more than are left in the sources. -/
theorem Yields.drain (h : Yields w.state records s) (hleft : records.length ≤ s.left) :
    ∃ t, s.drain.run w = ((.ok records, t), w) := by
  obtain ⟨t, ht⟩ := h.takeNext s.left
  rw [List.take_of_length_le hleft] at ht
  exact ⟨t, ht⟩

end Taking

/-! ## The sources -/

section Sources

variable {sources : List (HitStream σ)} {state : σ} {queues : List (List Record)}

theorem Serve.length_le_left {s : MultiStream σ} (h : Serve s.sources state queues) :
    queues.flatten.length ≤ s.left := by
  have hfold : ∀ (sources : List (HitStream σ)) (queues : List (List Record)) (n : Nat),
      Serve sources state queues →
      n + queues.flatten.length ≤
        sources.foldl (fun count source => count + source.hits.length) n := by
    intro sources queues n h
    induction h generalizing n with
    | nil => simp
    | cons hgives _ ih =>
        rw [List.flatten_cons, List.length_append, List.foldl_cons, ← Nat.add_assoc]
        exact Nat.le_trans (Nat.add_le_add_right (Nat.add_le_add_left hgives.length_le n) _) (ih _)
  exact Nat.le_trans (Nat.le_add_left _ _) (hfold s.sources queues 2 h)

/-- At each place there is a source that gives its list, and stays in line with
the others when it has given the first record; or there is no source. -/
theorem Serve.split (h : Serve sources state queues) (place : Nat) :
    (sources[place]? = none ∧ queues[place]? = none) ∨
      ∃ source queue, sources[place]? = some source ∧ queues[place]? = some queue ∧
        source.Gives state queue ∧ ∀ t : HitStream σ, t.Gives state queue.tail →
          Serve (sources.set place t) state (queues.modify place List.tail) := by
  induction h generalizing place with
  | nil => exact Or.inl ⟨rfl, rfl⟩
  | @cons source queue _ _ hgives hrest ih =>
      cases place with
      | zero => exact Or.inr ⟨source, queue, rfl, rfl, hgives, fun t ht => .cons ht hrest⟩
      | succ place =>
          rcases ih place with hnone | ⟨source', queue', hsource, hqueue, hgives', hset⟩
          · exact Or.inl hnone
          · exact Or.inr ⟨source', queue', hsource, hqueue, hgives',
              fun t ht => .cons hgives (hset t ht)⟩

/-- Asking one source takes the first record of its list. -/
theorem Serve.nextOf {s : MultiStream σ} {w : World σ} (h : Serve s.sources w.state queues)
    (place : Nat) :
    ∃ sources, (s.nextOf place).run w =
        ((.ok (queues[place]?.bind List.head?), { s with sources := sources }), w) ∧
      Serve sources w.state (queues.modify place List.tail) := by
  unfold MultiStream.nextOf
  rcases h.split place with ⟨hsource, hqueue⟩ | ⟨source, queue, hsource, hqueue, hgives, hset⟩
  · refine ⟨s.sources, ?_, ?_⟩
    · rw [hsource, hqueue]
      rfl
    · rwa [List.modify_eq_self (List.getElem?_eq_none_iff.1 hqueue)]
  · obtain ⟨t, ht, hgives'⟩ := hgives.next
    refine ⟨s.sources.set place t, ?_, hset t hgives'⟩
    rw [hsource, hqueue]
    show (source.next >>= _).run w = _
    rw [StateM.run_bind_of_eq ht]
    rfl

end Sources

/-! ## One after the other -/

section InSequence

variable {sources : List (HitStream σ)} {state : σ} {queues : List (List Record)}

/-- All lists are at their end, or the first one that is not belongs to the
first source that has a next record. -/
theorem Serve.first (h : Serve sources state queues) :
    (queues.flatten = [] ∧ sources.findIdx? HitStream.hasNext = none) ∨
      ∃ place r rest, sources.findIdx? HitStream.hasNext = some place ∧
        queues[place]? = some (r :: rest) ∧
        queues.flatten = r :: (queues.modify place List.tail).flatten := by
  induction h with
  | nil => exact Or.inl ⟨rfl, rfl⟩
  | @cons source queue _ queues hgives _ ih =>
      have hiff := hgives.hasNext_iff
      cases queue with
      | nil =>
          have hnext : source.hasNext = false := by simpa using hiff
          rcases ih with ⟨hflat, hnone⟩ | ⟨place, r, rest, hplace, hqueue, hflat⟩
          · refine Or.inl ⟨by simpa using hflat, ?_⟩
            rw [List.findIdx?_cons, hnext, hnone]
            rfl
          · refine Or.inr ⟨place + 1, r, rest, ?_, hqueue, ?_⟩
            · rw [List.findIdx?_cons, hnext, hplace]
              rfl
            · simpa using hflat
      | cons r rest =>
          have hnext : source.hasNext = true := hiff.2 (List.cons_ne_nil r rest)
          refine Or.inr ⟨0, r, rest, ?_, rfl, rfl⟩
          rw [List.findIdx?_cons, hnext]
          rfl

/-- **Without a comparator, one list after the other.** -/
theorem yields_in_sequence {s : MultiStream σ} (hserve : Serve s.sources state queues)
    (hcomparator : s.comparator = none) (hpending : s.pending = none) :
    Yields state queues.flatten s := by
  have hpull : ∀ s : MultiStream σ, s.comparator = none → s.pull = s.nextInSequence := by
    intro s hs
    rw [pull, hs]
  generalize hrecords : queues.flatten = records
  induction records generalizing s queues with
  | nil =>
      refine ⟨hpending, fun w hw => ?_⟩
      rw [hpull s hcomparator, nextInSequence]
      rcases hserve.first with ⟨_, hnone⟩ | ⟨place, r, rest, _, _, hflat⟩
      · rw [hnone]
        exact ⟨s, rfl⟩
      · rw [hrecords] at hflat
        cases hflat
  | cons r records ih =>
      refine ⟨hpending, fun w hw => ?_⟩
      rw [hpull s hcomparator, nextInSequence]
      rcases hserve.first with ⟨hflat, _⟩ | ⟨place, r', rest, hplace, hqueue, hflat⟩
      · rw [hrecords] at hflat
        cases hflat
      · rw [hrecords, List.cons.injEq] at hflat
        obtain ⟨rfl, hrest⟩ := hflat
        subst hw
        obtain ⟨sources, hnext, hserve'⟩ := hserve.nextOf place
        rw [hplace]
        rw [hqueue] at hnext
        exact ⟨_, hnext, ih hserve' hcomparator hpending hrest.symm⟩

end InSequence

/-! ## Merged -/

/-- The first record of each list that has one, with the place of the list,
counted from `start`. -/
def headsFrom (start : Nat) : List (List Record) → List (Nat × Record)
  | [] => []
  | queue :: rest =>
    match queue.head? with
    | none => headsFrom (start + 1) rest
    | some r => (start, r) :: headsFrom (start + 1) rest

section Heads

variable {κ : Type} [LinearOrder κ] {c : Comparator} {key : Record → κ}

/-- A head is the first record of the list at its place. -/
theorem split_of_mem_headsFrom {start : Nat} {queues : List (List Record)} {head : Nat × Record}
    (h : head ∈ headsFrom start queues) :
    ∃ before rest after, queues = before ++ (head.2 :: rest) :: after ∧
      head.1 = start + before.length := by
  induction queues generalizing start with
  | nil => cases h
  | cons queue more ih =>
      have hmore : head ∈ headsFrom (start + 1) more →
          ∃ before rest after, queue :: more = before ++ (head.2 :: rest) :: after ∧
            head.1 = start + before.length := by
        intro hmem
        obtain ⟨before, rest, after, rfl, hplace⟩ := ih hmem
        refine ⟨queue :: before, rest, after, rfl, ?_⟩
        rw [List.length_cons]
        omega
      rw [headsFrom] at h
      split at h
      · exact hmore h
      · next r hr =>
          rcases List.mem_cons.1 h with rfl | hmem
          · obtain ⟨rest, rfl⟩ := List.head?_eq_some_iff.1 hr
            exact ⟨[], rest, more, rfl, rfl⟩
          · exact hmore hmem

theorem mem_headsFrom {start : Nat} {queues : List (List Record)} {head : Nat × Record}
    (h : head ∈ headsFrom start queues) :
    start ≤ head.1 ∧ ∃ queue ∈ queues, queue.head? = some head.2 := by
  obtain ⟨before, rest, after, rfl, hplace⟩ := split_of_mem_headsFrom h
  exact ⟨by omega, head.2 :: rest, by simp, rfl⟩

/-- Without heads all lists are at their end. -/
theorem forall_nil_of_headsFrom {start : Nat} {queues : List (List Record)}
    (h : headsFrom start queues = []) : ∀ queue ∈ queues, queue = [] := by
  induction queues generalizing start with
  | nil => simp
  | cons queue rest ih =>
      cases queue with
      | nil => simpa using ih h
      | cons r more => cases h

theorem headsFrom_of_forall_nil {start : Nat} {queues : List (List Record)}
    (h : ∀ queue ∈ queues, queue = []) : headsFrom start queues = [] := by
  rw [List.eq_nil_iff_forall_not_mem]
  intro head hmem
  obtain ⟨_, queue, hqueue, hhead⟩ := mem_headsFrom hmem
  rw [h queue hqueue] at hhead
  cases hhead

theorem mem_of_leastHead? {heads : List (Nat × Record)} {head : Nat × Record}
    (h : leastHead? c heads = some head) : head ∈ heads := by
  induction heads with
  | nil => cases h
  | cons first rest ih =>
      rw [leastHead?] at h
      cases hrest : leastHead? c rest with
      | none =>
          simp only [hrest, Option.some.injEq] at h
          exact h ▸ List.mem_cons_self ..
      | some least =>
          simp only [hrest] at h
          split at h
          · obtain rfl := Option.some.inj h
            exact List.mem_cons_of_mem _ (ih hrest)
          · exact Option.some.inj h ▸ List.mem_cons_self ..

theorem leastHead?_eq_none {heads : List (Nat × Record)} (h : leastHead? c heads = none) :
    heads = [] := by
  cases heads with
  | nil => rfl
  | cons first rest =>
      rw [leastHead?] at h
      split at h
      · cases h
      · split at h <;> cases h

/-- **The least head is found**, and of equal ones that of the earliest list. -/
theorem leastHead?_headsFrom {before after : List (List Record)} {a : Record}
    {rest : List Record} (start : Nat) (hleast : LeastHead key before a after)
    (hc : c.RankedBy key (before ++ (a :: rest) :: after).flatten) :
    leastHead? c (headsFrom start (before ++ (a :: rest) :: after)) =
      some (start + before.length, a) := by
  have hmem : ∀ queue ∈ before ++ (a :: rest) :: after, ∀ b, queue.head? = some b →
      b ∈ (before ++ (a :: rest) :: after).flatten := by
    intro queue hqueue b hb
    exact List.mem_flatten.2 ⟨queue, hqueue, List.mem_of_mem_head? hb⟩
  induction before generalizing start with
  | nil =>
      rw [List.nil_append, headsFrom, List.head?_cons]
      simp only [leastHead?]
      cases hfound : leastHead? c (headsFrom (start + 1) after) with
      | none => rfl
      | some least =>
          obtain ⟨_, queue, hqueue, hhead⟩ := mem_headsFrom (mem_of_leastHead? hfound)
          have hle : key a ≤ key least.2 := hleast.right queue hqueue _ hhead
          have hgt : c a least.2 ≠ .gt := by
            intro hgt
            refine absurd ((hc a ?_ least.2 ?_).1 hgt) (not_lt.2 hle)
            · exact hmem (a :: rest) (by simp) a rfl
            · exact hmem queue (by simp [hqueue]) _ hhead
          simp only [beq_iff_eq, hgt, if_false]
          rfl
  | cons queue before ih =>
      have hleast' : LeastHead key before a after :=
        ⟨fun l hl => hleast.left l (List.mem_cons_of_mem _ hl), hleast.right⟩
      have hsub : ∀ r ∈ (before ++ (a :: rest) :: after).flatten,
          r ∈ (queue :: before ++ (a :: rest) :: after).flatten := by
        intro r hr
        rw [List.cons_append, List.flatten_cons]
        exact List.mem_append_right _ hr
      have hfound := ih (start + 1) hleast' (hc.mono hsub) fun l hl b hb =>
        List.mem_flatten.2 ⟨l, hl, List.mem_of_mem_head? hb⟩
      have hplace : start + 1 + before.length = start + (queue :: before).length := by
        rw [List.length_cons]
        omega
      rw [List.cons_append, headsFrom]
      cases hhead : queue.head? with
      | none => rw [hfound, hplace]
      | some b =>
          have hlt : key a < key b := hleast.left queue (List.mem_cons_self ..) b hhead
          have hgt : c b a = .gt := by
            refine (hc b ?_ a ?_).2 hlt
            · exact hmem queue (by simp) b hhead
            · exact hmem (a :: rest) (by simp) a rfl
          simp only [leastHead?, hfound, hgt, hplace]
          rfl

/-- What is found is a least head. -/
theorem leastHead_of_leastHead? {before after : List (List Record)} {a : Record}
    {rest : List Record} (hc : c.RankedBy key (before ++ (a :: rest) :: after).flatten)
    (h : leastHead? c (headsFrom 0 (before ++ (a :: rest) :: after)) =
      some (before.length, a)) : LeastHead key before a after := by
  rcases exists_leastHead key (before ++ (a :: rest) :: after) with
    hnone | ⟨before', a', rest', after', hsplit, hleast⟩
  · have hcons := hnone (a :: rest) (by simp)
    cases hcons
  · rw [hsplit] at hc h
    rw [leastHead?_headsFrom 0 hleast hc, Nat.zero_add, Option.some.injEq, Prod.mk.injEq] at h
    obtain ⟨rfl, hrest⟩ := List.append_inj hsplit h.1.symm
    cases hrest
    exact hleast

theorem replaceHead_cons_self (place : Nat) (r : Record) (record : Option Record)
    (heads : List (Nat × Record)) :
    replaceHead place record ((place, r) :: heads) =
      (record.map fun r => (place, r)).toList ++ replaceHead place record heads := by
  cases record <;> simp [replaceHead]

theorem replaceHead_cons_of_ne {place : Nat} {head : Nat × Record} (h : head.1 ≠ place)
    (record : Option Record) (heads : List (Nat × Record)) :
    replaceHead place record (head :: heads) = head :: replaceHead place record heads := by
  simp [replaceHead, h]

/-- A head that is not there is not replaced. -/
theorem replaceHead_of_lt {place start : Nat} (h : place < start) (record : Option Record)
    (queues : List (List Record)) :
    replaceHead place record (headsFrom start queues) = headsFrom start queues := by
  refine (List.filterMap_congr (g := some) fun head hmem => ?_).trans List.filterMap_some
  have hle := (mem_headsFrom hmem).1
  rw [if_neg (by omega)]

/-- Replacing the head of one list by its successor. -/
theorem replaceHead_headsFrom (start place : Nat) (queues : List (List Record)) :
    replaceHead (start + place)
        (((queues.map List.tail)[place]?).bind List.head?) (headsFrom start queues) =
      headsFrom start (queues.modify place List.tail) := by
  induction queues generalizing start place with
  | nil => simp [headsFrom, replaceHead]
  | cons queue rest ih =>
      cases place with
      | zero =>
          have hafter := fun record : Option Record =>
            replaceHead_of_lt (Nat.lt_succ_self start) record rest
          cases queue with
          | nil => exact hafter none
          | cons r more =>
              have hheads : headsFrom start ((r :: more) :: rest) =
                  (start, r) :: headsFrom (start + 1) rest := rfl
              rw [hheads, Nat.add_zero, replaceHead_cons_self, hafter]
              cases more with
              | nil => rfl
              | cons _ _ => rfl
      | succ place =>
          have hplace : start + (place + 1) = start + 1 + place := by omega
          have hrest := ih (start + 1) place
          rw [hplace, List.map_cons, List.getElem?_cons_succ, List.modify_succ_cons]
          cases queue with
          | nil => exact hrest
          | cons r more =>
              have hheads : ∀ rest, headsFrom start ((r :: more) :: rest) =
                  (start, r) :: headsFrom (start + 1) rest := fun _ => rfl
              rw [hheads, hheads, replaceHead_cons_of_ne (by show start ≠ _; omega), hrest]

end Heads

section Merged

variable {state : σ}

/-- The heads and the streams together stand for the lists that are left. -/
def Stands (s : MultiStream σ) (state : σ) (queues : List (List Record)) : Prop :=
  match s.merge with
  | .notStarted => Serve s.sources state queues
  | .running heads owed =>
    ∃ full, heads = headsFrom 0 full ∧ Serve s.sources state (full.map List.tail) ∧
      queues = match owed with
        | none => full
        | some place => full.modify place List.tail
  | .finished => ∀ queue ∈ queues, queue = []

/-- Taking the first records of the sources from a place on. -/
theorem Serve.takeHeads {s : MultiStream σ} {w : World σ} {done todo : List (List Record)}
    (h : Serve s.sources w.state (done ++ todo)) (heads : List (Nat × Record)) :
    ∃ sources, (s.takeHeads heads (List.range' done.length todo.length)).run w =
        ((.ok (heads ++ headsFrom done.length todo), { s with sources := sources }), w) ∧
      Serve sources w.state (done ++ todo.map List.tail) := by
  induction todo generalizing s done heads with
  | nil =>
      refine ⟨s.sources, ?_, h⟩
      rw [headsFrom, List.append_nil]
      rfl
  | cons queue todo ih =>
      obtain ⟨sources, hnext, hserve⟩ := h.nextOf done.length
      have hqueue : (done ++ queue :: todo)[done.length]? = some queue := by simp
      rw [modify_append_cons, List.append_cons] at hserve
      rw [hqueue, Option.bind_some] at hnext
      rw [List.length_cons, List.range'_succ, MultiStream.takeHeads,
        StateM.run_bind_of_eq hnext]
      have hlength : (done ++ [queue.tail]).length = done.length + 1 := by simp
      cases hhead : queue.head? with
      | none =>
          obtain ⟨sources', hrest, hserve'⟩ :=
            ih (s := { s with sources := sources }) hserve heads
          rw [hlength] at hrest
          refine ⟨sources', ?_, by rwa [List.append_assoc] at hserve'⟩
          simp only [headsFrom, hhead]
          exact hrest
      | some r =>
          obtain ⟨sources', hrest, hserve'⟩ :=
            ih (s := { s with sources := sources }) hserve (heads ++ [(done.length, r)])
          rw [hlength, List.append_assoc] at hrest
          refine ⟨sources', ?_, by rwa [List.append_assoc] at hserve'⟩
          simp only [headsFrom, hhead]
          exact hrest

/-- The heads are those of the lists that are left, and the streams give what
is behind them. -/
theorem Stands.currentHeads {s : MultiStream σ} {w : World σ} {queues : List (List Record)}
    (h : s.Stands w.state queues) :
    ∃ sources, s.currentHeads.run w =
        ((.ok (headsFrom 0 queues), { s with sources := sources }), w) ∧
      (Serve sources w.state (queues.map List.tail) ∨ ∀ queue ∈ queues, queue = []) := by
  obtain ⟨streams, comparator, merge, pending⟩ := s
  cases merge with
  | notStarted =>
      have hnone : Serve streams w.state ([] ++ queues) := h
      obtain ⟨sources, htake, hserve⟩ :=
        Serve.takeHeads (s := ⟨streams, comparator, .notStarted, pending⟩) hnone []
      refine ⟨sources, ?_, Or.inl hserve⟩
      show (MultiStream.takeHeads _ [] (List.range streams.length)).run w = _
      rw [List.range_eq_range', h.length_eq]
      exact htake
  | running heads owed =>
      obtain ⟨full, rfl, hserve, rfl⟩ := h
      cases owed with
      | none => exact ⟨streams, rfl, Or.inl hserve⟩
      | some place =>
          obtain ⟨sources, hnext, hserve'⟩ := hserve.nextOf place
          have hreplace := replaceHead_headsFrom 0 place full
          rw [Nat.zero_add] at hreplace
          refine ⟨sources, ?_, Or.inl ?_⟩
          · show (MultiStream.nextOf _ place >>= _).run w = _
            rw [StateM.run_bind_of_eq hnext]
            simp only [← hreplace]
            rfl
          · rwa [← map_modify fun _ => rfl] at hserve'
  | finished =>
      refine ⟨streams, ?_, Or.inr h⟩
      rw [headsFrom_of_forall_nil h]
      rfl

/-- **A pull gives the least head**, and what is left stands for the lists
without it. -/
theorem Stands.nextMerged_cons {c : Comparator} {s : MultiStream σ} {w : World σ}
    {before after : List (List Record)} {a : Record} {rest : List Record}
    (h : s.Stands w.state (before ++ (a :: rest) :: after))
    (hleast : leastHead? c (headsFrom 0 (before ++ (a :: rest) :: after)) =
      some (before.length, a)) :
    ∃ t, (s.nextMerged c).run w = ((.ok (some a), t), w) ∧
      t.Stands w.state (before ++ rest :: after) ∧ t.comparator = s.comparator ∧
      t.pending = s.pending := by
  obtain ⟨sources, hheads, hserve⟩ := h.currentHeads
  unfold MultiStream.nextMerged
  rw [StateM.run_bind_of_eq hheads]
  refine ⟨{ s with sources := sources,
                   merge := .running (headsFrom 0 (before ++ (a :: rest) :: after))
                     (some before.length) }, ?_, ?_, rfl, rfl⟩
  · simp only [hleast]
    rfl
  · refine ⟨before ++ (a :: rest) :: after, rfl, ?_, ?_⟩
    · rcases hserve with hserve | hnil
      · exact hserve
      · have hcons := hnil (a :: rest) (by simp)
        cases hcons
    · exact (modify_append_cons List.tail before (a :: rest) after).symm

/-- At the end of all lists there is no next record. -/
theorem Stands.nextMerged_nil {c : Comparator} {s : MultiStream σ} {w : World σ}
    {queues : List (List Record)} (h : s.Stands w.state queues)
    (hnil : ∀ queue ∈ queues, queue = []) :
    ∃ t, (s.nextMerged c).run w = ((.ok none, t), w) := by
  obtain ⟨sources, hheads, _⟩ := h.currentHeads
  unfold MultiStream.nextMerged
  rw [StateM.run_bind_of_eq hheads]
  simp only [headsFrom_of_forall_nil hnil]
  exact ⟨_, rfl⟩

end Merged

/-! ## Merged lists -/

/-- The lists are merged head by head: what is found to be the least head comes
first, then what the lists without it are merged to. -/
inductive Merges (c : Comparator) : List (List Record) → List Record → Prop
  /-- All lists are at their end. -/
  | done {queues : List (List Record)} (hnil : ∀ queue ∈ queues, queue = []) : Merges c queues []
  /-- One of the lists has the least head. -/
  | pick {before after : List (List Record)} {a : Record} {rest merged : List Record}
      (hleast : leastHead? c (headsFrom 0 (before ++ (a :: rest) :: after)) =
        some (before.length, a))
      (hmerged : Merges c (before ++ rest :: after) merged) :
      Merges c (before ++ (a :: rest) :: after) (a :: merged)

section MergedLists

variable {state : σ} {c : Comparator} {queues : List (List Record)} {merged : List Record}

/-- Lists merge to a list, whatever the comparator. -/
theorem exists_merges (c : Comparator) (queues : List (List Record)) :
    ∃ merged, Merges c queues merged := by
  -- with each head there is one record less
  generalize hcount : queues.flatten.length = count
  induction count generalizing queues with
  | zero =>
      refine ⟨[], .done fun queue hqueue => ?_⟩
      exact List.flatten_eq_nil_iff.1 (List.eq_nil_of_length_eq_zero hcount) queue hqueue
  | succ count ih =>
      cases hleast : leastHead? c (headsFrom 0 queues) with
      | none => exact ⟨[], .done (forall_nil_of_headsFrom (leastHead?_eq_none hleast))⟩
      | some head =>
          obtain ⟨place, a⟩ := head
          obtain ⟨before, rest, after, rfl, hplace⟩ :=
            split_of_mem_headsFrom (mem_of_leastHead? hleast)
          obtain rfl : place = before.length := by simpa using hplace
          have hless : (before ++ rest :: after).flatten.length = count := by
            simp only [List.flatten_append, List.flatten_cons, List.length_append,
              List.length_cons] at hcount ⊢
            omega
          obtain ⟨merged, hmerged⟩ := ih _ hless
          exact ⟨a :: merged, .pick hleast hmerged⟩

/-- **With a comparator, what the lists merge to.** -/
theorem Merges.yields {s : MultiStream σ} (h : Merges c queues merged)
    (hstands : s.Stands state queues) (hcomparator : s.comparator = some c)
    (hpending : s.pending = none) : Yields state merged s := by
  have hpull : ∀ s : MultiStream σ, s.comparator = some c → s.pull = s.nextMerged c := by
    intro s hs
    rw [pull, hs]
  induction h generalizing s with
  | done hnil =>
      refine ⟨hpending, fun w hw => ?_⟩
      subst hw
      rw [hpull s hcomparator]
      exact hstands.nextMerged_nil hnil
  | pick hleast _ ih =>
      refine ⟨hpending, fun w hw => ?_⟩
      subst hw
      rw [hpull s hcomparator]
      obtain ⟨t, hnext, hrest, hcomp, hpend⟩ := hstands.nextMerged_cons hleast
      exact ⟨t, hnext, ih hrest (hcomp.trans hcomparator) (hpend.trans hpending)⟩

/-- The lists without a head have no other records. -/
theorem mem_flatten_of_tail {before after : List (List Record)} {a : Record} {rest : List Record} :
    ∀ b ∈ (before ++ rest :: after).flatten, b ∈ (before ++ (a :: rest) :: after).flatten := by
  intro b hb
  simp only [List.flatten_append, List.flatten_cons, List.mem_append, List.mem_cons] at hb ⊢
  tauto

/-- **Ascending lists merge to the sorted whole.** -/
theorem Merges.eq_sortBy {κ : Type} [LinearOrder κ] {key : Record → κ}
    (h : Merges c queues merged) (hc : c.RankedBy key queues.flatten)
    (hqueues : ∀ queue ∈ queues, AscendingBy key queue) : merged = sortBy key queues.flatten := by
  induction h with
  | done hnil => rw [flatten_eq_nil_of_forall hnil, sortBy_nil]
  | pick hleast _ ih =>
      rw [sortBy_flatten_of_least_head (leastHead_of_leastHead? hc hleast) hqueues,
        ← ih (hc.mono mem_flatten_of_tail) (ascending_of_tail hqueues)]

/-- **With a comparator, in the order of the stable sort** of the lists one
after the other. -/
theorem yields_merged {κ : Type} [LinearOrder κ] {key : Record → κ} {s : MultiStream σ}
    (h : s.Stands state queues) (hcomparator : s.comparator = some c)
    (hpending : s.pending = none) (hc : c.RankedBy key queues.flatten)
    (hqueues : ∀ queue ∈ queues, AscendingBy key queue) :
    Yields state (sortBy key queues.flatten) s := by
  obtain ⟨merged, hmerged⟩ := exists_merges c queues
  rw [← hmerged.eq_sortBy hc hqueues]
  exact hmerged.yields h hcomparator hpending

end MergedLists

end MultiStream

end PipeQuery
