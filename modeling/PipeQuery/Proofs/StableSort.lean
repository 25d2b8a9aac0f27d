import Mathlib.Data.List.Basic
import Mathlib.Order.Lattice

/-!
# Stable sorting by a key

`sortBy key` puts a list into ascending order of a key and keeps the order of
items with equal keys.  That determines it: the result is ascending
(`pairwise_sortBy`), for each key it has the items of that key in their old
order (`filter_sortBy`), and no other list is like that
(`eq_of_pairwise_of_filter_eq`).

The second half is about several lists at once, as they come from several
sources.

* `sortBy_flatten_map_sortBy`: sorting each list first makes no difference.
* `sortBy_flatten_of_least_head`: of ascending lists, a least head is the first
  item of the sorted whole, provided that ties go to the earlier list.
* `take_sortBy_flatten_take`: the first `n` items of each sorted list are enough
  for the first `n` items of the sorted whole.
-/

namespace PipeQuery

variable {α β κ : Type} [LinearOrder κ]

/-- The items in ascending order of a key; those with equal keys keep their
order. -/
def sortBy (key : α → κ) (l : List α) : List α :=
  l.mergeSort fun a b => decide (key a ≤ key b)

/-- The list is in ascending order of a key. -/
def AscendingBy (key : α → κ) (l : List α) : Prop := l.Pairwise fun a b => key a ≤ key b

/-- The items with a certain key. -/
def withKey (key : α → κ) (k : κ) (l : List α) : List α := l.filter fun a => decide (key a = k)

section Basic

variable (key : α → κ)

theorem perm_sortBy (l : List α) : (sortBy key l).Perm l := List.mergeSort_perm _ _

@[simp]
theorem mem_sortBy {l : List α} {a : α} : a ∈ sortBy key l ↔ a ∈ l := (perm_sortBy key l).mem_iff

@[simp]
theorem length_sortBy (l : List α) : (sortBy key l).length = l.length :=
  (perm_sortBy key l).length_eq

@[simp]
theorem sortBy_nil : sortBy key ([] : List α) = [] := List.mergeSort_nil

theorem keyLe_trans (a b c : α) (hab : decide (key a ≤ key b) = true)
    (hbc : decide (key b ≤ key c) = true) : decide (key a ≤ key c) = true := by
  rw [decide_eq_true_iff] at *
  exact le_trans hab hbc

theorem keyLe_total (a b : α) : (decide (key a ≤ key b) || decide (key b ≤ key a)) = true := by
  rw [Bool.or_eq_true, decide_eq_true_iff, decide_eq_true_iff]
  exact le_total _ _

theorem pairwise_sortBy (l : List α) : AscendingBy key (sortBy key l) := by
  have h := List.pairwise_mergeSort (keyLe_trans key) (keyLe_total key) l
  exact h.imp fun hab => of_decide_eq_true hab

variable {key}

theorem AscendingBy.sublist {l m : List α} (hm : AscendingBy key m) (h : l.Sublist m) :
    AscendingBy key l :=
  List.Pairwise.sublist h hm

/-- The first items of a sorted list are sorted. -/
theorem ascendingBy_take_sortBy (key : α → κ) (n : Nat) (l : List α) :
    AscendingBy key ((sortBy key l).take n) :=
  (pairwise_sortBy key l).sublist (List.take_sublist n _)

theorem mem_withKey {k : κ} {l : List α} {a : α} : a ∈ withKey key k l ↔ a ∈ l ∧ key a = k := by
  rw [withKey, List.mem_filter, decide_eq_true_iff]

theorem withKey_cons_of_eq {k : κ} {l : List α} {a : α} (h : key a = k) :
    withKey key k (a :: l) = a :: withKey key k l := by
  simp [withKey, h]

theorem withKey_cons_of_ne {k : κ} {l : List α} {a : α} (h : key a ≠ k) :
    withKey key k (a :: l) = withKey key k l := by
  simp [withKey, h]

theorem withKey_append (k : κ) (l m : List α) :
    withKey key k (l ++ m) = withKey key k l ++ withKey key k m :=
  List.filter_append ..

theorem withKey_eq_nil {k : κ} {l : List α} (h : ∀ a ∈ l, key a ≠ k) : withKey key k l = [] :=
  List.filter_eq_nil_iff.2 fun a ha hk => h a ha (of_decide_eq_true hk)

/-- A filter that keeps every item of the key. -/
theorem withKey_filter {k : κ} {p : α → Bool} {l : List α}
    (h : ∀ a ∈ l, key a = k → p a = true) : withKey key k (l.filter p) = withKey key k l := by
  rw [withKey, withKey, List.filter_filter]
  refine List.filter_congr fun a ha => ?_
  rw [Bool.and_eq_left_iff_imp, decide_eq_true_iff]
  exact h a ha

theorem withKey_flatten (k : κ) (ls : List (List α)) :
    withKey key k ls.flatten = (ls.map (withKey key k)).flatten :=
  List.filter_flatten

variable (key)

/-- **Stability**: the items of each key keep their order. -/
theorem filter_sortBy (k : κ) (l : List α) : withKey key k (sortBy key l) = withKey key k l := by
  have hsorted : (withKey key k l).Pairwise fun a b => decide (key a ≤ key b) = true := by
    refine List.pairwise_of_forall_mem_list ?_
    intro a ha b hb
    rw [decide_eq_true_iff, (mem_withKey.1 ha).2, (mem_withKey.1 hb).2]
  have hsub : (withKey key k l).Sublist (sortBy key l) :=
    List.sublist_mergeSort (keyLe_trans key) (keyLe_total key) hsorted List.filter_sublist
  have hsub' : (withKey key k l).Sublist (withKey key k (sortBy key l)) := by
    have h := hsub.filter fun a => decide (key a = k)
    rwa [show (withKey key k l).filter (fun a => decide (key a = k)) = withKey key k l by
      rw [withKey, List.filter_filter]; simp] at h
  have hlen : (withKey key k l).length = (withKey key k (sortBy key l)).length :=
    ((perm_sortBy key l).filter _).length_eq.symm
  exact (hsub'.eq_of_length hlen).symm

variable {key}

/-- **Uniqueness**: an ascending list is determined by the items of each key,
in their order. -/
theorem eq_of_pairwise_of_filter_eq {l m : List α} (hl : AscendingBy key l)
    (hm : AscendingBy key m) (h : ∀ k, withKey key k l = withKey key k m) : l = m := by
  induction l generalizing m with
  | nil =>
      cases m with
      | nil => rfl
      | cons b m =>
          have hb := h (key b)
          rw [withKey_cons_of_eq rfl] at hb
          cases hb
  | cons a l ih =>
      cases m with
      | nil =>
          have ha := h (key a)
          rw [withKey_cons_of_eq rfl] at ha
          cases ha
      | cons b m =>
          -- each head is in the other list, so their keys are equal
          have hab : key a ≤ key b := by
            have hb : b ∈ withKey key (key b) (a :: l) := by
              rw [h, withKey_cons_of_eq rfl]
              exact List.mem_cons_self ..
            rcases List.mem_cons.1 (mem_withKey.1 hb).1 with rfl | hmem
            · exact le_refl _
            · exact (List.pairwise_cons.1 hl).1 b hmem
          have hba : key b ≤ key a := by
            have ha : a ∈ withKey key (key a) (b :: m) := by
              rw [← h, withKey_cons_of_eq rfl]
              exact List.mem_cons_self ..
            rcases List.mem_cons.1 (mem_withKey.1 ha).1 with rfl | hmem
            · exact le_refl _
            · exact (List.pairwise_cons.1 hm).1 a hmem
          have hkey : key b = key a := le_antisymm hba hab
          have hfirst := h (key a)
          rw [withKey_cons_of_eq rfl, withKey_cons_of_eq hkey, List.cons.injEq] at hfirst
          obtain ⟨rfl, hrest⟩ := hfirst
          rw [ih (List.pairwise_cons.1 hl).2 (List.pairwise_cons.1 hm).2 ?_]
          intro k
          by_cases hk : key a = k
          · rw [← hk]
            exact hrest
          · have hk' := h k
            rwa [withKey_cons_of_ne hk, withKey_cons_of_ne hk] at hk'

/-- An ascending list with the items of each key in their order is the sorted
list. -/
theorem eq_sortBy {l m : List α} (hm : AscendingBy key m)
    (h : ∀ k, withKey key k m = withKey key k l) : m = sortBy key l :=
  eq_of_pairwise_of_filter_eq hm (pairwise_sortBy key l) fun k => by rw [h k, filter_sortBy]

/-- Sorting what a test leaves is testing what has been sorted. -/
theorem sortBy_filter (key : α → κ) (p : α → Bool) (l : List α) :
    sortBy key (l.filter p) = (sortBy key l).filter p := by
  symm
  refine eq_sortBy ((pairwise_sortBy key l).sublist List.filter_sublist) fun k => ?_
  have hstable := filter_sortBy key k l
  unfold withKey at hstable ⊢
  rw [List.filter_comm, hstable, List.filter_comm]

/-- The items of the last key may be put behind the others, which are sorted by
themselves. -/
theorem sortBy_filter_append {last : κ} {p q : α → Bool} {l : List α}
    (hlast : ∀ a ∈ l, key a ≤ last) (hp : ∀ a ∈ l, p a = true ↔ key a < last)
    (hq : ∀ a ∈ l, q a = true ↔ key a = last) :
    sortBy key (l.filter p) ++ l.filter q = sortBy key l := by
  have hbefore : ∀ a ∈ l.filter p, key a < last := fun a ha =>
    (hp a (List.mem_of_mem_filter ha)).1 (List.mem_filter.1 ha).2
  have hbehind : ∀ a ∈ l.filter q, key a = last := fun a ha =>
    (hq a (List.mem_of_mem_filter ha)).1 (List.mem_filter.1 ha).2
  refine eq_sortBy ?_ fun k => ?_
  · refine List.pairwise_append.2 ⟨pairwise_sortBy key _, ?_, ?_⟩
    · refine List.pairwise_of_forall_mem_list fun a ha b hb => ?_
      rw [hbehind a ha, hbehind b hb]
    · intro a ha b hb
      rw [hbehind b hb]
      exact le_of_lt (hbefore a ((mem_sortBy key).1 ha))
  · -- all items of a key are on one side
    rw [withKey_append, filter_sortBy]
    by_cases hk : k = last
    · rw [withKey_eq_nil fun a ha => hk ▸ (hbefore a ha).ne, List.nil_append,
        withKey_filter fun a ha hka => (hq a ha).2 (hka.trans hk)]
    · have hkept : ∀ a ∈ l, key a = k → p a = true := by
        intro a ha hka
        refine (hp a ha).2 (lt_of_le_of_ne (hlast a ha) ?_)
        rw [hka]
        exact hk
      rw [withKey_eq_nil (l := l.filter q) fun a ha hka => hk (hka.symm.trans (hbehind a ha)),
        List.append_nil, withKey_filter hkept]

/-- Sorting what a map gives is sorting by the key of the image. -/
theorem sortBy_map (key : β → κ) (f : α → β) (l : List α) :
    sortBy key (l.map f) = (sortBy (fun a => key (f a)) l).map f := by
  symm
  exact List.map_mergeSort (s := fun a b => decide (key a ≤ key b)) fun _ _ _ _ => rfl

end Basic

/-! ## Several lists -/

section Several

variable {key : α → κ}

/-- Sorting each list first makes no difference to the sorted whole. -/
theorem sortBy_flatten_map_sortBy (key : α → κ) (ls : List (List α)) :
    sortBy key (ls.map (sortBy key)).flatten = sortBy key ls.flatten := by
  refine eq_sortBy (pairwise_sortBy key _) fun k => ?_
  rw [filter_sortBy, withKey_flatten, withKey_flatten, List.map_map]
  exact congrArg List.flatten (List.map_congr_left fun l _ => filter_sortBy key k l)

/-- An item that is before all items on its left and not behind any on its
right comes first. -/
theorem sortBy_append_cons {l m : List α} {a : α} (hl : ∀ b ∈ l, key a < key b)
    (hm : ∀ b ∈ m, key a ≤ key b) : sortBy key (l ++ a :: m) = a :: sortBy key (l ++ m) := by
  symm
  refine eq_sortBy ?_ fun k => ?_
  · refine List.pairwise_cons.2 ⟨fun b hb => ?_, pairwise_sortBy key _⟩
    rcases List.mem_append.1 ((mem_sortBy key).1 hb) with hb | hb
    · exact le_of_lt (hl b hb)
    · exact hm b hb
  · by_cases hk : key a = k
    · -- no item on the left has the key
      have hnone : withKey key k l = [] := withKey_eq_nil fun b hb => hk ▸ (hl b hb).ne'
      rw [withKey_append, withKey_cons_of_eq hk, withKey_cons_of_eq hk, filter_sortBy,
        withKey_append, hnone, List.nil_append, List.nil_append]
    · rw [withKey_append, withKey_cons_of_ne hk, withKey_cons_of_ne hk, filter_sortBy,
        withKey_append]

/-- The head of an ascending list is not behind any of its items. -/
theorem le_of_head?_le {l : List α} (hl : AscendingBy key l) {k : κ}
    (h : ∀ a, l.head? = some a → k ≤ key a) : ∀ b ∈ l, k ≤ key b := by
  cases l with
  | nil => simp
  | cons a l =>
      intro b hb
      have ha : k ≤ key a := h a rfl
      rcases List.mem_cons.1 hb with rfl | hb
      · exact ha
      · exact le_trans ha ((List.pairwise_cons.1 hl).1 b hb)

theorem lt_of_head?_lt {l : List α} (hl : AscendingBy key l) {k : κ}
    (h : ∀ a, l.head? = some a → k < key a) : ∀ b ∈ l, k < key b := by
  cases l with
  | nil => simp
  | cons a l =>
      intro b hb
      have ha : k < key a := h a rfl
      rcases List.mem_cons.1 hb with rfl | hb
      · exact ha
      · exact lt_of_lt_of_le ha ((List.pairwise_cons.1 hl).1 b hb)

/-- The head `a` of a list is before the heads of the lists on its left and not
behind those of the lists on its right. -/
structure LeastHead (key : α → κ) (before : List (List α)) (a : α) (after : List (List α)) :
    Prop where
  left : ∀ l ∈ before, ∀ b, l.head? = some b → key a < key b
  right : ∀ l ∈ after, ∀ b, l.head? = some b → key a ≤ key b

/-- **A least head comes first.** -/
theorem sortBy_flatten_of_least_head {before after : List (List α)} {a : α} {rest : List α}
    (hleast : LeastHead key before a after)
    (hsorted : ∀ l ∈ before ++ (a :: rest) :: after, AscendingBy key l) :
    sortBy key (before ++ (a :: rest) :: after).flatten =
      a :: sortBy key (before ++ rest :: after).flatten := by
  have hthis : AscendingBy key (a :: rest) := hsorted _ (by simp)
  rw [List.flatten_append, List.flatten_cons, List.cons_append, List.flatten_append,
    List.flatten_cons]
  refine sortBy_append_cons ?_ ?_
  · intro b hb
    obtain ⟨l, hl, hbl⟩ := List.mem_flatten.1 hb
    exact lt_of_head?_lt (hsorted l (by simp [hl])) (hleast.left l hl) b hbl
  · intro b hb
    rcases List.mem_append.1 hb with hb | hb
    · exact (List.pairwise_cons.1 hthis).1 b hb
    · obtain ⟨l, hl, hbl⟩ := List.mem_flatten.1 hb
      exact le_of_head?_le (hsorted l (by simp [hl])) (hleast.right l hl) b hbl

/-- Of several lists, all are empty or one has a least head. -/
theorem exists_leastHead (key : α → κ) (ls : List (List α)) :
    (∀ l ∈ ls, l = []) ∨
      ∃ before a rest after, ls = before ++ (a :: rest) :: after ∧
        LeastHead key before a after := by
  induction ls with
  | nil => exact Or.inl (by simp)
  | cons l ls ih =>
      cases l with
      | nil =>
          rcases ih with hnone | ⟨before, a, rest, after, rfl, hleast⟩
          · exact Or.inl (by simpa using hnone)
          · refine Or.inr ⟨[] :: before, a, rest, after, rfl, ?_, hleast.right⟩
            intro l hl b hb
            rcases List.mem_cons.1 hl with rfl | hl
            · simp at hb
            · exact hleast.left l hl b hb
      | cons c cs =>
          rcases ih with hnone | ⟨before, a, rest, after, rfl, hleast⟩
          · refine Or.inr ⟨[], c, cs, ls, rfl, by simp, ?_⟩
            intro l hl b hb
            rw [hnone l hl] at hb
            simp at hb
          · by_cases hca : key c ≤ key a
            · refine Or.inr ⟨[], c, cs, _, rfl, by simp, ?_⟩
              intro l hl b hb
              rcases List.mem_append.1 hl with hl | hl
              · exact le_trans hca (le_of_lt (hleast.left l hl b hb))
              · rcases List.mem_cons.1 hl with rfl | hl
                · simp only [List.head?_cons, Option.some.injEq] at hb
                  exact hb ▸ hca
                · exact le_trans hca (hleast.right l hl b hb)
            · refine Or.inr ⟨(c :: cs) :: before, a, rest, after, rfl, ?_, hleast.right⟩
              intro l hl b hb
              rcases List.mem_cons.1 hl with rfl | hl
              · simp only [List.head?_cons, Option.some.injEq] at hb
                exact hb ▸ not_le.1 hca
              · exact hleast.left l hl b hb

theorem flatten_eq_nil_of_forall {ls : List (List α)} (h : ∀ l ∈ ls, l = []) :
    ls.flatten = [] := by
  rw [List.flatten_eq_nil_iff]
  exact h

/-- Two lists that agree on their first items have the same head. -/
theorem head?_eq_of_take_eq {l m : List α} {n : Nat} (h : l.take (n + 1) = m.take (n + 1)) :
    l.head? = m.head? := by
  have hhead := congrArg List.head? h
  rwa [List.head?_take, List.head?_take, if_neg (Nat.succ_ne_zero n)] at hhead

theorem map_take_of_map_take_succ {n : Nat} {ls ms : List (List α)}
    (h : ls.map (List.take (n + 1)) = ms.map (List.take (n + 1))) :
    ls.map (List.take n) = ms.map (List.take n) := by
  have htake := congrArg (List.map (List.take n)) h
  simpa [List.map_map, Function.comp_def, List.take_take] using htake

/-- A list on one side has a partner on the other. -/
theorem exists_take_eq {n : Nat} {ls ms : List (List α)}
    (h : ls.map (List.take n) = ms.map (List.take n)) {m : List α} (hm : m ∈ ms) :
    ∃ l ∈ ls, l.take n = m.take n := by
  have hmem : m.take n ∈ ls.map (List.take n) := by
    rw [h]
    exact List.mem_map_of_mem hm
  exact List.mem_map.1 hmem

/-- Lists stay ascending when one of them loses its head. -/
theorem ascending_of_tail {before after : List (List α)} {a : α} {rest : List α}
    (h : ∀ l ∈ before ++ (a :: rest) :: after, AscendingBy key l) :
    ∀ l ∈ before ++ rest :: after, AscendingBy key l := by
  intro l hl
  rcases List.mem_append.1 hl with hl | hl
  · exact h l (by simp [hl])
  · rcases List.mem_cons.1 hl with rfl | hl
    · exact (h (a :: l) (by simp)).sublist (List.sublist_cons_self a l)
    · exact h l (by simp [hl])

/-- **Only the first `n` of each matter.**  If ascending lists agree list by
list on their first `n` items, the sorted wholes agree on theirs. -/
theorem take_sortBy_flatten (n : Nat) : ∀ {ls ms : List (List α)},
    ls.map (List.take n) = ms.map (List.take n) →
    (∀ l ∈ ls, AscendingBy key l) → (∀ m ∈ ms, AscendingBy key m) →
    (sortBy key ls.flatten).take n = (sortBy key ms.flatten).take n := by
  induction n with
  | zero => intros; simp
  | succ n ih =>
      intro ls ms hagree hls hms
      rcases exists_leastHead key ls with hnone | ⟨before, a, rest, after, rfl, hleast⟩
      · -- without any item on one side there is none on the other
        have hnone' : ∀ m ∈ ms, m = [] := by
          intro m hm
          obtain ⟨l, hl, hlm⟩ := exists_take_eq hagree hm
          have hhead := head?_eq_of_take_eq hlm
          rw [hnone l hl] at hhead
          exact List.head?_eq_none_iff.1 hhead.symm
        rw [flatten_eq_nil_of_forall hnone, flatten_eq_nil_of_forall hnone']
      · -- both sides have the same least head, and agree on the rest
        rw [List.map_append, List.map_cons] at hagree
        obtain ⟨before', ms', rfl, hbefore, hms'⟩ := List.map_eq_append_iff.1 hagree.symm
        obtain ⟨m, after', rfl, hm, hafter⟩ := List.map_eq_cons_iff.1 hms'
        have hhead := head?_eq_of_take_eq hm
        cases m with
        | nil => simp at hhead
        | cons b rest' =>
            obtain rfl : b = a := by simpa using hhead
            have hleast' : LeastHead key before' b after' := by
              constructor
              · intro l hl c hc
                obtain ⟨l', hl', htake⟩ := exists_take_eq hbefore.symm hl
                exact hleast.left l' hl' c ((head?_eq_of_take_eq htake).trans hc)
              · intro l hl c hc
                obtain ⟨l', hl', htake⟩ := exists_take_eq hafter.symm hl
                exact hleast.right l' hl' c ((head?_eq_of_take_eq htake).trans hc)
            have hrest : rest.take n = rest'.take n := by simpa using hm.symm
            rw [sortBy_flatten_of_least_head hleast hls,
              sortBy_flatten_of_least_head hleast' hms, List.take_succ_cons,
              List.take_succ_cons]
            congr 1
            refine ih ?_ (ascending_of_tail hls) (ascending_of_tail hms)
            rw [List.map_append, List.map_append, List.map_cons, List.map_cons, hrest,
              map_take_of_map_take_succ hbefore, map_take_of_map_take_succ hafter]

/-- **The first `n` of each list are enough** for the first `n` of the sorted
whole. -/
theorem take_sortBy_flatten_take (key : α → κ) (n : Nat) (ls : List (List α)) :
    (sortBy key (ls.map fun l => (sortBy key l).take n).flatten).take n =
      (sortBy key ls.flatten).take n := by
  rw [← sortBy_flatten_map_sortBy key ls]
  refine take_sortBy_flatten n ?_ ?_ ?_
  · rw [List.map_map, List.map_map]
    refine List.map_congr_left fun l _ => ?_
    rw [Function.comp_apply, Function.comp_apply, List.take_take, Nat.min_self]
  · intro l hl
    obtain ⟨l₀, _, rfl⟩ := List.mem_map.1 hl
    exact ascendingBy_take_sortBy key n l₀
  · intro l hl
    obtain ⟨l₀, _, rfl⟩ := List.mem_map.1 hl
    exact pairwise_sortBy key l₀

end Several

end PipeQuery
