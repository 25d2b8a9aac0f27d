import PipeQuery.Proofs.StableSort
import PipeQuery.Stream.Comparator
import Mathlib.Algebra.Order.Monoid.Unbundled.WithTop
import Mathlib.Data.Int.ConditionallyCompleteOrder
import Mathlib.Order.ConditionallyCompleteLattice.Basic
import Mathlib.Order.WithBot

/-!
# Ranks of records

Sources can order their hits by score or by instant, and the streams of several
sources are merged in the same orders.  Both sides are brought to one key here:
a record has a rank in an order (`SortOrder.rank`), which is a whole number, or
beyond all of them for a record without an instant.

* `Binary64.lt_iff_rank_lt`: the order of numbers is the order of their units,
  with the infinities beyond all finite numbers.
* `ofOrder_rankedBy`: the comparator of an order puts the record with the
  greater rank behind the other, in both directions.  Scores have to be numbers
  for that, because nothing is before or behind a NaN.
* `Comparator.sort_eq_sortBy`: sorting with such a comparator is stable sorting
  by rank.
-/

namespace PipeQuery

/-! ## Numbers -/

namespace Binary64

theorem overflowUnits_pos : 0 < overflowUnits := unitsOfTwo_pos 1024

theorem natAbs_signedUnits (negative : Bool) (units : Nat) :
    (signedUnits negative units).natAbs = units := by
  cases negative <;> simp [signedUnits]

/-- But for the negative zero, the sign of the units is the sign. -/
theorem decide_signedUnits_neg {negative : Bool} {units : Nat}
    (h : ¬(negative = true ∧ units = 0)) : decide (signedUnits negative units < 0) = negative := by
  cases negative with
  | false => simp [signedUnits]
  | true =>
      have hpos : units ≠ 0 := fun hzero => h ⟨rfl, hzero⟩
      simp only [signedUnits, if_true, decide_eq_true_eq]
      omega

/-- Between two bounds that differ in their signs only, the sign decides. -/
theorem signedUnits_bounds {m : Nat} (hm : 0 < m) (x y : Bool) :
    (y.toNat < x.toNat ↔ signedUnits x m < signedUnits y m) ∧
      (y.toNat = x.toNat ↔ signedUnits x m = signedUnits y m) := by
  cases x <;> cases y <;> simp [signedUnits] <;> omega

theorem signedUnits_lt_bound {u m : Nat} (h : u < m) (x : Bool) :
    signedUnits x u < signedUnits false m := by
  cases x <;> simp [signedUnits] <;> omega

theorem bound_lt_signedUnits {u m : Nat} (h : u < m) (x : Bool) :
    signedUnits true m < signedUnits x u := by
  cases x <;> simp [signedUnits] <;> omega

theorem some_eq_iff_of_lt {a b : ℤ} (h : a < b) :
    (some Ordering.lt = some .lt ↔ a < b) ∧ (some Ordering.lt = some .eq ↔ a = b) :=
  ⟨iff_of_true rfl h, iff_of_false (by decide) (Int.ne_of_lt h)⟩

theorem some_eq_iff_of_gt {a b : ℤ} (h : b < a) :
    (some Ordering.gt = some .lt ↔ a < b) ∧ (some Ordering.gt = some .eq ↔ a = b) :=
  ⟨iff_of_false (by decide) (Int.not_lt.2 (Int.le_of_lt h)),
    iff_of_false (by decide) (Int.ne_of_gt h)⟩

/-- The order of two numbers is the order of their ranks. -/
theorem order?_eq_some {a b : Binary64} (ha : a.isNaN = false) (hb : b.isNaN = false) :
    (a.order? b = some .lt ↔ a.rank < b.rank) ∧ (a.order? b = some .eq ↔ a.rank = b.rank) := by
  cases a with
  | nan => cases ha
  | infinite x =>
      cases b with
      | nan => cases hb
      | infinite y =>
          rw [order?, Option.some.injEq, Option.some.injEq, Nat.compare_eq_lt, Nat.compare_eq_eq]
          exact signedUnits_bounds overflowUnits_pos x y
      | finite y v _ hv =>
          cases x with
          | true => exact some_eq_iff_of_lt (bound_lt_signedUnits hv y)
          | false => exact some_eq_iff_of_gt (signedUnits_lt_bound hv y)
  | finite x u _ hu =>
      cases b with
      | nan => cases hb
      | infinite y =>
          cases y with
          | true => exact some_eq_iff_of_gt (bound_lt_signedUnits hu x)
          | false => exact some_eq_iff_of_lt (signedUnits_lt_bound hu x)
      | finite y v _ hv =>
          rw [order?, Option.some.injEq, Option.some.injEq, Int.compare_eq_lt, Int.compare_eq_eq]
          exact ⟨Iff.rfl, Iff.rfl⟩

theorem lt_iff_rank_lt {a b : Binary64} (ha : a.isNaN = false) (hb : b.isNaN = false) :
    a.lt b = true ↔ a.rank < b.rank := by
  rw [lt, beq_iff_eq]
  exact (order?_eq_some ha hb).1

theorem le_iff_rank_le {a b : Binary64} (ha : a.isNaN = false) (hb : b.isNaN = false) :
    a.le b = true ↔ a.rank ≤ b.rank := by
  rw [le, Bool.or_eq_true, beq_iff_eq, beq_iff_eq, (order?_eq_some ha hb).1,
    (order?_eq_some ha hb).2]
  omega

end Binary64

/-! ## Ranks -/

/-- A whole number, or beyond all of them. -/
abbrev Rank := WithTop ℤ

namespace SortOrder

/-- A whole number in the direction of the order. -/
def directed (o : SortOrder) (n : ℤ) : Rank := if o.descending then ((-n : ℤ) : Rank) else (n : Rank)

/-- The rank of a score and an instant in an order; it is beyond all others
without an instant, whichever the direction. -/
def rankOf (o : SortOrder) (score : Binary64) (millis? : Option ℤ) : Rank :=
  match o.key with
  | .score => o.directed score.rank
  | .timestamp =>
    match millis? with
    | none => ⊤
    | some millis => o.directed millis
  | .field _ => 0

/-- The rank of a record. -/
def rank (o : SortOrder) (r : Record) : Rank := o.rankOf r.score r.millis?

theorem directed_lt_iff (o : SortOrder) (m n : ℤ) :
    o.directed m < o.directed n ↔ if o.descending then n < m else m < n := by
  unfold directed
  split
  · rw [WithTop.coe_lt_coe]
    omega
  · exact WithTop.coe_lt_coe

theorem directed_le_iff (o : SortOrder) (m n : ℤ) :
    o.directed m ≤ o.directed n ↔ if o.descending then n ≤ m else m ≤ n := by
  rw [← not_lt, directed_lt_iff]
  split <;> omega

theorem directed_lt_top (o : SortOrder) (n : ℤ) : o.directed n < ⊤ := by
  unfold directed
  split <;> exact WithTop.coe_lt_top _

end SortOrder

/-! ## Comparators -/

namespace Comparator

/-- The comparator puts the record with the greater key behind the other. -/
def RankedBy {κ : Type} [LinearOrder κ] (c : Comparator) (key : Record → κ) (l : List Record) :
    Prop :=
  ∀ a ∈ l, ∀ b ∈ l, c a b = .gt ↔ key b < key a

theorem RankedBy.mono {κ : Type} [LinearOrder κ] {c : Comparator} {key : Record → κ}
    {l m : List Record} (h : c.RankedBy key m) (hsub : ∀ a ∈ l, a ∈ m) : c.RankedBy key l :=
  fun a ha b hb => h a (hsub a ha) b (hsub b hb)

/-- Sorting with a comparator is stable sorting by the key. -/
theorem sort_eq_sortBy {κ : Type} [LinearOrder κ] {c : Comparator} {key : Record → κ}
    {l : List Record} (h : c.RankedBy key l) : c.sort l = sortBy key l := by
  have hmap : (l.mergeSort fun a b => c a b != .gt).map id =
      (l.map id).mergeSort fun a b => decide (key a ≤ key b) := by
    refine List.map_mergeSort fun a ha b hb => ?_
    rw [Bool.eq_iff_iff, bne_iff_ne, decide_eq_true_iff, ← not_lt]
    exact not_congr (h a ha b hb)
  rwa [List.map_id, List.map_id] at hmap

theorem byScoreDescending_eq_gt {a b : Record} (ha : a.score.isNaN = false)
    (hb : b.score.isNaN = false) :
    byScoreDescending a b = .gt ↔ a.score.rank < b.score.rank := by
  rw [← Binary64.lt_iff_rank_lt ha hb, byScoreDescending]
  split
  · next h => simp [h]
  · next h => split <;> simp [h]

/-- The scores are numbers. -/
def ScoresAreNumbers (l : List Record) : Prop := ∀ r ∈ l, r.score.isNaN = false

theorem ScoresAreNumbers.mono {l m : List Record} (h : ScoresAreNumbers m)
    (hsub : ∀ r ∈ l, r ∈ m) : ScoresAreNumbers l :=
  fun r hr => h r (hsub r hr)

theorem scoresAreNumbers_flatten {ls : List (List Record)} (h : ∀ l ∈ ls, ScoresAreNumbers l) :
    ScoresAreNumbers ls.flatten := by
  intro r hr
  obtain ⟨l, hl, hrl⟩ := List.mem_flatten.1 hr
  exact h l hl r hrl

theorem byTimestamp_eq_gt (descending : Bool) (a b : Record) :
    byTimestamp descending a b = .gt ↔
      SortOrder.rank ⟨.timestamp, descending⟩ b < SortOrder.rank ⟨.timestamp, descending⟩ a := by
  unfold byTimestamp SortOrder.rank SortOrder.rankOf
  cases ha : a.millis? with
  | none =>
      cases hb : b.millis? with
      | none => simp
      | some y => simp [SortOrder.directed_lt_top]
  | some x =>
      cases hb : b.millis? with
      | none => simp
      | some y =>
          simp only [SortOrder.directed_lt_iff, turn]
          cases descending with
          | true => simp [Ordering.swap_eq_gt, Int.compare_eq_lt]
          | false => simp [Int.compare_eq_gt]

/-- **Comparators follow ranks**, for the orders that sources know. -/
theorem ofOrder_rankedBy {o : SortOrder} (ho : o.key.isPushable = true) {l : List Record}
    (hl : ScoresAreNumbers l) : (ofOrder o).RankedBy o.rank l := by
  intro a ha b hb
  obtain ⟨key, descending⟩ := o
  cases key with
  | score =>
      show (if descending then byScoreDescending else fun a b => byScoreDescending b a) a b = .gt ↔
        SortOrder.directed _ _ < SortOrder.directed _ _
      rw [SortOrder.directed_lt_iff]
      cases descending with
      | true => exact byScoreDescending_eq_gt (hl a ha) (hl b hb)
      | false => exact byScoreDescending_eq_gt (hl b hb) (hl a ha)
  | timestamp => exact byTimestamp_eq_gt descending a b
  | field name => simp [SortKey.isPushable] at ho

end Comparator

end PipeQuery
