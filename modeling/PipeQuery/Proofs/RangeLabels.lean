import PipeQuery.Search.Facets
import PipeQuery.Proofs.NumbersIn
import PipeQuery.Proofs.Ranks
import PipeQuery.Proofs.Rounding

/-!
# Labels of ranges

A value with a number in it is counted under the range that the number lies in, between two
neighbouring bounds or beyond all of them.  The bounds are sorted and then scanned for the first
pair of neighbours with the number between them; the scan ends at the last bound, which has no
neighbour, and what it does not find lies below the first.

Bounds are whole numbers and binary64 numbers, and some of either kind are equal.  All have a
place on one line (`Number.place`), whole numbers of any size between the infinities.

* `Number.order?_eq`: the order of numbers is the order of their places.
* `rangeLabel?_append`: the scan finds the last bound at or below a number and the first above it.
* `rangeLabel_iff`: so the label is determined by the least and the greatest of some bounds, and
  neither the order of the bounds nor their repeats show in it.
-/

namespace PipeQuery

/-! ## Places -/

/-- A place on the line of numbers: so many units, or one of its ends. -/
abbrev Place := WithBot (WithTop ℤ)

/-- Places are compared by their linear order. -/
instance : Ord Place := LinearOrder.toOrd

/-- So many units. -/
def Place.ofUnits (units : ℤ) : Place := ((units : WithTop ℤ) : Place)

theorem Place.ofUnits_lt_iff {m n : ℤ} : ofUnits m < ofUnits n ↔ m < n := by
  rw [ofUnits, ofUnits, WithBot.coe_lt_coe, WithTop.coe_lt_coe]

/-- The upper end. -/
def Place.upper : Place := ((⊤ : WithTop ℤ) : Place)

theorem Place.lower_lt_ofUnits (n : ℤ) : ⊥ < ofUnits n := WithBot.bot_lt_coe _

theorem Place.ofUnits_lt_upper (n : ℤ) : ofUnits n < upper :=
  WithBot.coe_lt_coe.2 (WithTop.coe_lt_top n)

theorem Place.lower_lt_upper : ⊥ < upper := WithBot.bot_lt_coe _

/-- The place of a number; that of NaN means nothing. -/
def Binary64.place : Binary64 → Place
  | nan => ⊥
  | infinite negative => if negative then ⊥ else .upper
  | finite negative units _ _ => .ofUnits (signedUnits negative units)

namespace Number

/-- Not a number; whole numbers always are. -/
def isNaN : Number → Bool
  | integer _ => false
  | binary x => x.isNaN

/-- The place of a whole or binary64 number. -/
def place : Number → Place
  | integer n => .ofUnits (n * unitsPerOne)
  | binary x => x.place

end Number

/-- Units are ordered as their places are. -/
theorem Place.compare_ofUnits (m n : ℤ) :
    compare (ofUnits m) (ofUnits n) = compare m n := by
  rcases lt_trichotomy m n with h | rfl | h
  · rw [compare_lt_iff_lt.2 h, compare_lt_iff_lt.2 (ofUnits_lt_iff.2 h)]
  · rw [compare_eq_iff_eq.2 rfl, compare_eq_iff_eq.2 rfl]
  · rw [compare_gt_iff_gt.2 h, compare_gt_iff_gt.2 (ofUnits_lt_iff.2 h)]

/-- The order of a number and an integer is the order of their places. -/
theorem Binary64.orderToInt?_eq {x : Binary64} (hx : x.isNaN = false) (n : ℤ) :
    x.orderToInt? n = some (compare x.place (.ofUnits (n * unitsPerOne))) := by
  cases x with
  | nan => cases hx
  | infinite negative =>
      cases negative with
      | true => exact congrArg some (compare_lt_iff_lt.2 (Place.lower_lt_ofUnits _)).symm
      | false => exact congrArg some (compare_gt_iff_gt.2 (Place.ofUnits_lt_upper _)).symm
  | finite negative units _ _ => exact congrArg some (Place.compare_ofUnits _ _).symm

theorem Binary64.order?_eq {x y : Binary64} (hx : x.isNaN = false) (hy : y.isNaN = false) :
    x.order? y = some (compare x.place y.place) := by
  cases x with
  | nan => cases hx
  | infinite a =>
      cases y with
      | nan => cases hy
      | infinite b =>
          cases a <;> cases b
          · exact congrArg some (compare_eq_iff_eq.2 rfl).symm
          · exact congrArg some (compare_gt_iff_gt.2 Place.lower_lt_upper).symm
          · exact congrArg some (compare_lt_iff_lt.2 Place.lower_lt_upper).symm
          · exact congrArg some (compare_eq_iff_eq.2 rfl).symm
      | finite b v _ _ =>
          cases a with
          | true => exact congrArg some (compare_lt_iff_lt.2 (Place.lower_lt_ofUnits _)).symm
          | false => exact congrArg some (compare_gt_iff_gt.2 (Place.ofUnits_lt_upper _)).symm
  | finite a u _ _ =>
      cases y with
      | nan => cases hy
      | infinite b =>
          cases b with
          | true => exact congrArg some (compare_gt_iff_gt.2 (Place.lower_lt_ofUnits _)).symm
          | false => exact congrArg some (compare_lt_iff_lt.2 (Place.ofUnits_lt_upper _)).symm
      | finite b v _ _ => exact congrArg some (Place.compare_ofUnits _ _).symm

namespace Number

/-- **The order of numbers is the order of their places.** -/
theorem order?_eq {a b : Number} (ha : a.isNaN = false) (hb : b.isNaN = false) :
    a.order? b = some (compare a.place b.place) := by
  cases a with
  | integer m =>
      cases b with
      | integer n =>
          refine congrArg some ?_
          rw [place, place, Place.compare_ofUnits]
          have hpos : (0 : ℤ) < unitsPerOne := Int.natCast_pos.2 unitsPerOne_pos
          rcases lt_trichotomy m n with h | rfl | h
          · rw [compare_lt_iff_lt.2 h, compare_lt_iff_lt.2 (Int.mul_lt_mul_of_pos_right h hpos)]
          · rw [compare_eq_iff_eq.2 rfl, compare_eq_iff_eq.2 rfl]
          · rw [compare_gt_iff_gt.2 h, compare_gt_iff_gt.2 (Int.mul_lt_mul_of_pos_right h hpos)]
      | binary y =>
          rw [order?, Binary64.orderToInt?_eq hb, Option.map_some]
          exact congrArg some Std.OrientedOrd.eq_swap.symm
  | binary x =>
      cases b with
      | integer n => exact Binary64.orderToInt?_eq ha n
      | binary y => exact Binary64.order?_eq ha hb

section Order

variable {a b : Number} (ha : a.isNaN = false) (hb : b.isNaN = false)

include ha hb

theorem lt_iff_place_lt : a.lt b = true ↔ a.place < b.place := by
  rw [lt, beq_iff_eq, order?_eq ha hb, Option.some.injEq, compare_lt_iff_lt]

theorem le_iff_place_le : a.le b = true ↔ a.place ≤ b.place := by
  rw [le, Bool.or_eq_true, beq_iff_eq, beq_iff_eq, order?_eq ha hb, Option.some.injEq,
    Option.some.injEq, compare_lt_iff_lt, compare_eq_iff_eq, le_iff_lt_or_eq]

end Order

/-! ## Bounds -/

/-- A bound of ranges: a number that is not NaN, and not the negative zero, which is equal to
zero and yet written with a sign.  A whole number has to fit binary64, or it cannot be written. -/
structure IsBound (b : Number) : Prop where
  isNumber : b.isNaN = false
  unsignedZero : b ≠ .binary (.zero true)
  fits : ∀ n, b = .integer n → (Binary64.ofInt n).isFinite = true

end Number

/-- The number at a place that is no negative zero. -/
def Place.number (p : Place) : Binary64 :=
  match p with
  | none => .infinite true
  | some none => .infinite false
  | some (some units) => .ofFraction (units < 0) units.natAbs 1

/-- Where zero has no sign, a sign and a number of units are what they stand for. -/
theorem Binary64.finite_eq_number {negative : Bool} {units : Nat} {fits : FitsSignificand units}
    {bounded : units < overflowUnits} (hzero : ¬(negative = true ∧ units = 0)) :
    finite negative units fits bounded = Place.number (.ofUnits (signedUnits negative units)) := by
  show _ =
    ofFraction (decide (signedUnits negative units < 0)) (signedUnits negative units).natAbs 1
  rw [decide_signedUnits_neg hzero, natAbs_signedUnits]
  obtain ⟨_, heq⟩ := ofFraction_of_lt negative (roundToSignificand_of_fits fits) bounded
  exact heq.symm

namespace Number

theorem IsBound.integer {n : Int} (h : (Binary64.ofInt n).isFinite = true) :
    (Number.integer n).IsBound where
  isNumber := rfl
  unsignedZero := nofun
  fits := fun _ hn => Number.integer.inj hn ▸ h

/-- A bound is written as the number at its place, whichever kind it is of. -/
theorem IsBound.toBinary64_eq {b : Number} (hb : b.IsBound) : b.toBinary64 = b.place.number := by
  cases b with
  | integer n =>
      have hsign : decide (n * unitsPerOne < 0) = decide (n < 0) := by
        have hpos : (0 : ℤ) < unitsPerOne := Int.natCast_pos.2 unitsPerOne_pos
        rw [decide_eq_decide]
        exact ⟨fun h => by nlinarith, fun h => by nlinarith⟩
      show Binary64.ofFraction (decide (n < 0)) (n.natAbs * unitsPerOne) 1 =
        Binary64.ofFraction (decide (n * unitsPerOne < 0)) (n * unitsPerOne).natAbs 1
      rw [hsign, Int.natAbs_mul, Int.natAbs_natCast]
  | binary x =>
      cases x with
      | nan => cases hb.isNumber
      | infinite negative => cases negative <;> rfl
      | finite negative units fits bounded =>
          refine Binary64.finite_eq_number ?_
          rintro ⟨rfl, rfl⟩
          exact hb.unsignedZero rfl

/-- Equal bounds are written alike. -/
theorem IsBound.sixDigits_eq {a b : Number} (ha : a.IsBound) (hb : b.IsBound)
    (h : a.place = b.place) : a.sixDigits = b.sixDigits := by
  rw [sixDigits, sixDigits, ha.toBinary64_eq, hb.toBinary64_eq, h]

end Number

namespace Facets

theorem sortBounds_eq_sortBy {bounds : List Number} (hnumbers : ∀ b ∈ bounds, b.isNaN = false) :
    sortBounds bounds = sortBy Number.place bounds := by
  have hmap : (bounds.mergeSort fun a b => !b.lt a).map id =
      (bounds.map id).mergeSort fun a b => decide (a.place ≤ b.place) := by
    refine List.map_mergeSort fun a ha b hb => ?_
    rw [Bool.eq_iff_iff, Bool.not_eq_true', Bool.eq_false_iff, ne_eq, decide_eq_true_iff, ← not_lt]
    exact not_congr (Number.lt_iff_place_lt (hnumbers b hb) (hnumbers a ha))
  rwa [List.map_id, List.map_id] at hmap

/-! ## The scan -/

/-- The label of the range between two neighbouring bounds; at an end there is only one. -/
def labelBetween : Option Number → Option Number → String
  | none, none => ""
  | none, some high => "<" ++ high.sixDigits
  | some low, none => low.sixDigits ++ "+"
  | some low, some high => low.sixDigits ++ "-" ++ high.sixDigits

/-- The bounds at or below a number, and those above it. -/
structure Parted (x : Number) (below above : List Number) : Prop where
  atMost : ∀ b ∈ below, b.place ≤ x.place
  greater : ∀ b ∈ above, x.place < b.place

/-- The last item of an ascending list is the greatest. -/
theorem le_of_getLast? {α κ : Type} [LinearOrder κ] {key : α → κ} {l : List α}
    (h : AscendingBy key l) {a : α} (ha : l.getLast? = some a) :
    a ∈ l ∧ ∀ b ∈ l, key b ≤ key a := by
  obtain ⟨others, rfl⟩ := List.getLast?_eq_some_iff.1 ha
  refine ⟨by simp, fun b hb => ?_⟩
  rcases List.mem_append.1 hb with hb | hb
  · exact (List.pairwise_append.1 h).2.2 b hb a (List.mem_singleton_self a)
  · rw [List.mem_singleton.1 hb]

/-- The first item of an ascending list is the least. -/
theorem ge_of_head? {α κ : Type} [LinearOrder κ] {key : α → κ} {l : List α}
    (h : AscendingBy key l) {a : α} (ha : l.head? = some a) : a ∈ l ∧ ∀ b ∈ l, key a ≤ key b := by
  obtain ⟨others, rfl⟩ := List.head?_eq_some_iff.1 ha
  refine ⟨List.mem_cons_self .., fun b hb => ?_⟩
  rcases List.mem_cons.1 hb with rfl | hb
  · exact le_rfl
  · exact (List.pairwise_cons.1 h).1 b hb

/-- Ascending bounds are parted by a number. -/
theorem exists_parted (x : Number) {bounds : List Number}
    (h : AscendingBy Number.place bounds) :
    ∃ below above, bounds = below ++ above ∧ Parted x below above := by
  induction bounds with
  | nil => exact ⟨[], [], rfl, by simp, by simp⟩
  | cons b rest ih =>
      rw [AscendingBy, List.pairwise_cons] at h
      rcases le_or_gt b.place x.place with hle | hlt
      · obtain ⟨below, above, rfl, hparted⟩ := ih h.2
        refine ⟨b :: below, above, rfl, ?_, hparted.greater⟩
        exact List.forall_mem_cons.2 ⟨hle, hparted.atMost⟩
      · refine ⟨[], b :: rest, rfl, by simp, ?_⟩
        exact List.forall_mem_cons.2 ⟨hlt, fun c hc => hlt.trans_le (h.1 c hc)⟩

section Scan

variable {x : Number} (hx : x.isNaN = false)

include hx

/-- Below the first bound nothing is found. -/
theorem rangeLabel?_of_greater {above : List Number} (hnumbers : ∀ b ∈ above, b.isNaN = false)
    (hgreater : ∀ b ∈ above, x.place < b.place) : rangeLabel? x above = none := by
  induction above with
  | nil => rfl
  | cons low rest ih =>
      rw [List.forall_mem_cons] at hnumbers hgreater
      have hlow : low.le x = false := by
        rw [Bool.eq_false_iff, ne_eq, Number.le_iff_place_le hnumbers.1 hx, not_le]
        exact hgreater.1
      cases rest with
      | nil => simp [rangeLabel?, hlow]
      | cons high rest =>
          rw [rangeLabel?, hlow, Bool.false_and, if_neg Bool.false_ne_true]
          exact ih hnumbers.2 hgreater.2

/-- **The scan finds the neighbours** of a number: the last bound at or below it, and the first
above it, if there is one. -/
theorem rangeLabel?_append {below above : List Number}
    (hnumbers : ∀ b ∈ below ++ above, b.isNaN = false) (hparted : Parted x below above)
    (hne : below ≠ []) :
    rangeLabel? x (below ++ above) = some (labelBetween below.getLast? above.head?) := by
  induction below with
  | nil => exact absurd rfl hne
  | cons low rest ih =>
      obtain ⟨hatMost, hgreater⟩ := hparted
      rw [List.cons_append, List.forall_mem_cons] at hnumbers
      rw [List.forall_mem_cons] at hatMost
      have hlow : low.le x = true := (Number.le_iff_place_le hnumbers.1 hx).2 hatMost.1
      cases rest with
      | nil =>
          cases above with
          | nil => simp [rangeLabel?, hlow, labelBetween]
          | cons high rest =>
              have hhigh : x.lt high = true :=
                (Number.lt_iff_place_lt hx (hnumbers.2 high (List.mem_cons_self ..))).2
                  (hgreater high (List.mem_cons_self ..))
              simp [rangeLabel?, hlow, hhigh, labelBetween]
      | cons high rest =>
          have hhigh : x.lt high = false := by
            rw [Bool.eq_false_iff, ne_eq,
              Number.lt_iff_place_lt hx (hnumbers.2 high (List.mem_cons_self ..)), not_lt]
            exact hatMost.2 high (List.mem_cons_self ..)
          rw [List.cons_append, List.cons_append, rangeLabel?, hhigh, Bool.and_false,
            if_neg Bool.false_ne_true, ← List.cons_append,
            ih hnumbers.2 ⟨hatMost.2, hgreater⟩ (List.cons_ne_nil _ _), List.getLast?_cons_cons]

end Scan

/-! ## The number in a value -/

theorem isNaN_ofFraction (negative : Bool) (num den : Nat) :
    (Binary64.ofFraction negative num den).isNaN = false := by
  unfold Binary64.ofFraction
  split <;> rfl

theorem isNaN_ofDecimal (negative : Bool) (d : Decimal) :
    (Binary64.ofDecimal negative d).isNaN = false := by
  unfold Binary64.ofDecimal
  split
  · rfl
  · split
    · rfl
    · split
      · rfl
      · split <;> exact isNaN_ofFraction _ _ _

theorem isNumberChar_or_of_isBoundChar {c : Char} (h : isBoundChar c = true) :
    isNumberChar c = true ∨ c = '-' := by
  rw [isBoundChar, Bool.or_eq_true, beq_iff_eq] at h
  exact h

theorem isPlainChar_of_isBoundChar {c : Char} (h : isBoundChar c = true) : IsPlainChar c := by
  rcases isNumberChar_or_of_isBoundChar h with h | rfl
  · exact isPlainChar_of_isNumberChar h
  · decide

theorem toLower_of_isBoundChar {c : Char} (h : isBoundChar c = true) : c.toLower = c := by
  rcases isNumberChar_or_of_isBoundChar h with h | rfl
  · exact toLower_of_isNumberChar h
  · decide

theorem mem_of_mem_splitSign {cs : List Char} {c : Char} (h : c ∈ (splitSign cs).2) : c ∈ cs := by
  unfold splitSign at h
  split at h
  · exact List.mem_cons_of_mem _ h
  · exact List.mem_cons_of_mem _ h
  · exact h

/-- The number in a value is never NaN, whose name has other characters. -/
theorem isNaN_of_valueNumber? {value : String} {x : Binary64} (h : valueNumber? value = some x) :
    (Number.binary x).isNaN = false := by
  have hchars : ∀ c ∈ value.toList.filter isBoundChar, isBoundChar c = true :=
    fun c hc => List.of_mem_filter hc
  have hplain : ∀ c ∈ value.toList.filter isBoundChar, IsPlainChar c :=
    fun c hc => isPlainChar_of_isBoundChar (hchars c hc)
  rw [valueNumber?, readBinary64?, plainText_of_plainChars hplain,
    withoutLowLines?_of_plainChars hplain] at h
  generalize value.toList.filter isBoundChar = cs at h hchars
  have hname : ((splitSign cs).2.map Char.toLower == ['n', 'a', 'n']) = false := by
    rw [beq_eq_false_iff_ne]
    intro hname
    have hmem : 'n' ∈ (splitSign cs).2.map Char.toLower := by rw [hname]; decide
    obtain ⟨c, hc, hlower⟩ := List.mem_map.1 hmem
    have hbound := hchars c (mem_of_mem_splitSign hc)
    rw [toLower_of_isBoundChar hbound] at hlower
    rw [hlower] at hbound
    exact absurd hbound (by decide)
  dsimp only at h
  rw [hname] at h
  split at h
  · cases h
    rfl
  · rw [if_neg Bool.false_ne_true, Option.map_eq_some_iff] at h
    obtain ⟨d, -, rfl⟩ := h
    exact isNaN_ofDecimal _ d

/-! ## Labels -/

theorem bucketLabel_of_no_bounds (value : String) : bucketLabel value [] = value := by
  rw [bucketLabel, sortBounds, List.mergeSort_nil]

theorem bucketLabel_of_none {value : String} (bounds : List Number)
    (hvalue : valueNumber? value = none) : bucketLabel value bounds = value := by
  unfold bucketLabel
  cases sortBounds bounds with
  | nil => rfl
  | cons least rest => rw [hvalue]

/-- **The label of a number** is that of the range between the bounds next to it. -/
theorem bucketLabel_of_parted {value : String} {x : Binary64} (hvalue : valueNumber? value = some x)
    {bounds below above : List Number} (hne : bounds ≠ [])
    (hnumbers : ∀ b ∈ bounds, b.isNaN = false) (hsorted : sortBounds bounds = below ++ above)
    (hparted : Parted (.binary x) below above) :
    bucketLabel value bounds = labelBetween below.getLast? above.head? := by
  have hperm : (below ++ above).Perm bounds := hsorted ▸ List.mergeSort_perm _ _
  have hx : (Number.binary x).isNaN = false := isNaN_of_valueNumber? hvalue
  have hsplit : ∀ b ∈ below ++ above, b.isNaN = false := fun b hb => hnumbers b (hperm.mem_iff.1 hb)
  cases hall : below ++ above with
  | nil => exact absurd (hall ▸ hperm).symm.eq_nil hne
  | cons least rest =>
      rw [bucketLabel, hsorted, hall]
      simp only [hvalue]
      rw [← hall]
      cases below with
      | nil =>
          obtain rfl : above = least :: rest := hall
          have hnone : rangeLabel? (.binary x) (least :: rest) = none :=
            rangeLabel?_of_greater hx hsplit hparted.greater
          rw [List.nil_append, hnone]
          rfl
      | cons low _ =>
          rw [rangeLabel?_append hx hsplit hparted (List.cons_ne_nil _ _), Option.getD_some]

/-- The label of a number among bounds, in whatever order these are: it tells the least bound if
the number is below all, the greatest if it is below none, and otherwise the greatest bound at or
below the number and the least bound above it. -/
inductive RangeLabel (bounds : List Number) (x : Number) : String → Prop
  | below {b : Number} (hb : b ∈ bounds) (hleast : ∀ c ∈ bounds, b.le c) (hx : x.lt b) :
    RangeLabel bounds x ("<" ++ b.sixDigits)
  | above {b : Number} (hb : b ∈ bounds) (hgreatest : ∀ c ∈ bounds, c.le b) (hx : b.le x) :
    RangeLabel bounds x (b.sixDigits ++ "+")
  | between {lo hi : Number} (hlo : lo ∈ bounds) (hhi : hi ∈ bounds) (hatMost : lo.le x)
    (hgreater : x.lt hi) (hgreatest : ∀ c ∈ bounds, c.le x → c.le lo)
    (hleast : ∀ c ∈ bounds, x.lt c → hi.le c) :
    RangeLabel bounds x (lo.sixDigits ++ "-" ++ hi.sixDigits)

/-- Neither the order of bounds nor their repeats matter. -/
theorem RangeLabel.congr {bounds bounds' : List Number} (h : ∀ b, b ∈ bounds' ↔ b ∈ bounds)
    {x : Number} {label : String} (hlabel : RangeLabel bounds x label) :
    RangeLabel bounds' x label := by
  cases hlabel with
  | below hb hleast hx => exact .below ((h _).2 hb) (fun c hc => hleast c ((h c).1 hc)) hx
  | above hb hgreatest hx => exact .above ((h _).2 hb) (fun c hc => hgreatest c ((h c).1 hc)) hx
  | between hlo hhi hatMost hgreater hgreatest hleast =>
      exact .between ((h _).2 hlo) ((h _).2 hhi) hatMost hgreater
        (fun c hc => hgreatest c ((h c).1 hc)) fun c hc => hleast c ((h c).1 hc)

section Bounds

variable {bounds : List Number} (hbounds : ∀ b ∈ bounds, b.IsBound) {x : Number}
  (hx : x.isNaN = false)

include hbounds hx

/-- A number has one label. -/
theorem RangeLabel.unique {label label' : String} (h : RangeLabel bounds x label)
    (h' : RangeLabel bounds x label') : label = label' := by
  have hle : ∀ {b c : Number}, b ∈ bounds → c ∈ bounds → (b.le c = true ↔ b.place ≤ c.place) :=
    fun hb hc => Number.le_iff_place_le (hbounds _ hb).isNumber (hbounds _ hc).isNumber
  have hlex : ∀ {b : Number}, b ∈ bounds → (b.le x = true ↔ b.place ≤ x.place) :=
    fun hb => Number.le_iff_place_le (hbounds _ hb).isNumber hx
  have hltx : ∀ {b : Number}, b ∈ bounds → (x.lt b = true ↔ x.place < b.place) :=
    fun hb => Number.lt_iff_place_lt hx (hbounds _ hb).isNumber
  have htext : ∀ {b c : Number}, b ∈ bounds → c ∈ bounds → b.le c = true → c.le b = true →
      b.sixDigits = c.sixDigits := fun hb hc hbc hcb =>
    (hbounds _ hb).sixDigits_eq (hbounds _ hc) (le_antisymm ((hle hb hc).1 hbc) ((hle hc hb).1 hcb))
  -- a bound at or below the number is below one above it
  have happart : ∀ {b c : Number}, b ∈ bounds → c ∈ bounds → b.le x = true → x.lt c = true →
      c.le b = true → False := fun hb hc hbx hxc hcb =>
    absurd ((hltx hc).1 hxc) (not_lt.2 (((hle hc hb).1 hcb).trans ((hlex hb).1 hbx)))
  cases h with
  | below hb hleast hxb =>
      cases h' with
      | below hb' hleast' _ => rw [htext hb hb' (hleast _ hb') (hleast' _ hb)]
      | above hb' _ hx' => exact (happart hb' hb hx' hxb (hleast _ hb')).elim
      | between hlo' _ hatMost' => exact (happart hlo' hb hatMost' hxb (hleast _ hlo')).elim
  | above hb hgreatest hbx =>
      cases h' with
      | below hb' hleast' hx' => exact (happart hb hb' hbx hx' (hleast' _ hb)).elim
      | above hb' hgreatest' _ => rw [htext hb hb' (hgreatest' _ hb) (hgreatest _ hb')]
      | between _ hhi' _ hgreater' => exact (happart hb hhi' hbx hgreater' (hgreatest _ hhi')).elim
  | between hlo hhi hatMost hgreater hgreatest hleast =>
      cases h' with
      | below hb' hleast' hx' => exact (happart hlo hb' hatMost hx' (hleast' _ hlo)).elim
      | above hb' hgreatest' hx' => exact (happart hb' hhi hx' hgreater (hgreatest' _ hhi)).elim
      | between hlo' hhi' hatMost' hgreater' hgreatest' hleast' =>
          rw [htext hlo hlo' (hgreatest' _ hlo hatMost) (hgreatest _ hlo' hatMost'),
            htext hhi hhi' (hleast _ hhi' hgreater') (hleast' _ hhi hgreater)]

/-- The bounds next to a number, of ascending ones, give its label. -/
theorem rangeLabel_labelBetween {below above : List Number} (hne : bounds ≠ [])
    (hperm : (below ++ above).Perm bounds) (hascending : AscendingBy Number.place (below ++ above))
    (hparted : Parted x below above) :
    RangeLabel bounds x (labelBetween below.getLast? above.head?) := by
  have hmem : ∀ {b : Number}, b ∈ bounds ↔ b ∈ below ++ above := hperm.mem_iff.symm
  have hle : ∀ {b c : Number}, b ∈ bounds → c ∈ bounds → b.place ≤ c.place → b.le c = true :=
    fun hb hc => (Number.le_iff_place_le (hbounds _ hb).isNumber (hbounds _ hc).isNumber).2
  have hlex : ∀ {b : Number}, b ∈ bounds → (b.le x = true ↔ b.place ≤ x.place) :=
    fun hb => Number.le_iff_place_le (hbounds _ hb).isNumber hx
  have hltx : ∀ {b : Number}, b ∈ bounds → (x.lt b = true ↔ x.place < b.place) :=
    fun hb => Number.lt_iff_place_lt hx (hbounds _ hb).isNumber
  obtain ⟨hbelow, habove, -⟩ := List.pairwise_append.1 hascending
  have hlast : ∀ {lo : Number}, below.getLast? = some lo →
      lo ∈ bounds ∧ lo.le x ∧ ∀ c ∈ below, c.le lo := by
    intro lo hlo
    obtain ⟨hmemlo, hgreatest⟩ := le_of_getLast? hbelow hlo
    have hbound := hmem.2 (List.mem_append_left _ hmemlo)
    exact ⟨hbound, (hlex hbound).2 (hparted.atMost lo hmemlo),
      fun c hc => hle (hmem.2 (List.mem_append_left _ hc)) hbound (hgreatest c hc)⟩
  have hfirst : ∀ {hi : Number}, above.head? = some hi →
      hi ∈ bounds ∧ x.lt hi ∧ ∀ c ∈ above, hi.le c := by
    intro hi hhi
    obtain ⟨hmemhi, hleast⟩ := ge_of_head? habove hhi
    have hbound := hmem.2 (List.mem_append_right _ hmemhi)
    exact ⟨hbound, (hltx hbound).2 (hparted.greater hi hmemhi),
      fun c hc => hle hbound (hmem.2 (List.mem_append_right _ hc)) (hleast c hc)⟩
  cases hlo : below.getLast? with
  | none =>
      obtain rfl := List.getLast?_eq_none_iff.1 hlo
      cases hhi : above.head? with
      | none =>
          obtain rfl := List.head?_eq_none_iff.1 hhi
          exact absurd hperm.symm.eq_nil hne
      | some hi =>
          obtain ⟨hmemhi, hxhi, hleast⟩ := hfirst hhi
          exact .below hmemhi (fun c hc => hleast c (hmem.1 hc)) hxhi
  | some lo =>
      obtain ⟨hmemlo, hlox, hgreatest⟩ := hlast hlo
      cases hhi : above.head? with
      | none =>
          obtain rfl := List.head?_eq_none_iff.1 hhi
          rw [List.append_nil] at hmem
          exact .above hmemlo (fun c hc => hgreatest c (hmem.1 hc)) hlox
      | some hi =>
          obtain ⟨hmemhi, hxhi, hleast⟩ := hfirst hhi
          refine .between hmemlo hmemhi hlox hxhi (fun c hc hcx => ?_) fun c hc hxc => ?_
          · rcases List.mem_append.1 (hmem.1 hc) with hbelow | habove
            · exact hgreatest c hbelow
            · exact absurd ((hlex hc).1 hcx) (not_le.2 (hparted.greater c habove))
          · rcases List.mem_append.1 (hmem.1 hc) with hbelow | habove
            · exact absurd ((hltx hc).1 hxc) (not_lt.2 (hparted.atMost c hbelow))
            · exact hleast c habove

end Bounds

/-- A value is given the label of the number in it. -/
theorem rangeLabel_bucketLabel {bounds : List Number} (hne : bounds ≠ [])
    (hbounds : ∀ b ∈ bounds, b.IsBound) {value : String} {x : Binary64}
    (hvalue : valueNumber? value = some x) :
    RangeLabel bounds (.binary x) (bucketLabel value bounds) := by
  have hnumbers : ∀ b ∈ bounds, b.isNaN = false := fun b hb => (hbounds b hb).isNumber
  have hsorted := sortBounds_eq_sortBy hnumbers
  obtain ⟨below, above, hsplit, hparted⟩ :=
    exists_parted (.binary x) (pairwise_sortBy Number.place bounds)
  rw [bucketLabel_of_parted hvalue hne hnumbers (hsorted.trans hsplit) hparted]
  exact rangeLabel_labelBetween hbounds (isNaN_of_valueNumber? hvalue) hne
    (hsplit ▸ perm_sortBy Number.place bounds) (hsplit ▸ pairwise_sortBy Number.place bounds)
    hparted

/-- **The label of a value among bounds** tells the least bound if the number in it is below all,
the greatest if it is below none, and otherwise the bounds next to it.  The order of the bounds
and their repeats do not show.  A value with no number in it labels itself. -/
theorem rangeLabel_iff {bounds : List Number} (hne : bounds ≠ [])
    (hbounds : ∀ b ∈ bounds, b.IsBound) (value : String) :
    (∀ x, valueNumber? value = some x → ∀ label,
      RangeLabel bounds (.binary x) label ↔ label = bucketLabel value bounds) ∧
    (valueNumber? value = none → bucketLabel value bounds = value) ∧
    ∀ bounds' : List Number, (∀ b, b ∈ bounds' ↔ b ∈ bounds) →
      bucketLabel value bounds' = bucketLabel value bounds := by
  have hiff : ∀ x, valueNumber? value = some x → ∀ label,
      RangeLabel bounds (.binary x) label ↔ label = bucketLabel value bounds := by
    intro x hvalue label
    have hlabel := rangeLabel_bucketLabel hne hbounds hvalue
    refine ⟨fun h => h.unique hbounds (isNaN_of_valueNumber? hvalue) hlabel, ?_⟩
    rintro rfl
    exact hlabel
  refine ⟨hiff, bucketLabel_of_none bounds, fun bounds' hmem => ?_⟩
  cases hvalue : valueNumber? value with
  | none => rw [bucketLabel_of_none bounds' hvalue, bucketLabel_of_none bounds hvalue]
  | some x =>
      have hne' : bounds' ≠ [] := by
        obtain ⟨b, hb⟩ := List.exists_mem_of_ne_nil bounds hne
        exact List.ne_nil_of_mem ((hmem b).2 hb)
      have hlabel := rangeLabel_bucketLabel hne' (fun b hb => hbounds b ((hmem b).1 hb)) hvalue
      exact (hiff x hvalue _).1 (hlabel.congr fun b => (hmem b).symm)

/-- Bounds of latencies, out of order. -/
def latencyBounds : List Number := [.integer 500, .integer 10, .integer 100]

theorem rangeLabel_of_fifty :
    latencyBounds ≠ [] ∧ (∀ b ∈ latencyBounds, b.IsBound) ∧
      RangeLabel latencyBounds (.binary (.ofInt 50)) "10-100" ∧
      bucketLabel "50ms" latencyBounds = "10-100" ∧
      bucketLabel "50ms" (latencyBounds ++ latencyBounds) = "10-100" := by
  have hne : latencyBounds ≠ [] := List.cons_ne_nil _ _
  have hbounds : ∀ b ∈ latencyBounds, b.IsBound :=
    List.forall_mem_cons.2 ⟨.integer (by decide +kernel), List.forall_mem_cons.2
      ⟨.integer (by decide +kernel), List.forall_mem_singleton.2 (.integer (by decide +kernel))⟩⟩
  have hvalue : valueNumber? "50ms" = some (.ofInt 50) := by decide +kernel
  have hlabel : RangeLabel latencyBounds (.binary (.ofInt 50))
      ((Number.integer 10).sixDigits ++ "-" ++ (Number.integer 100).sixDigits) :=
    .between (by decide) (by decide) (by decide +kernel) (by decide +kernel) (by decide +kernel)
      (by decide +kernel)
  have htext : (Number.integer 10).sixDigits ++ "-" ++ (Number.integer 100).sixDigits =
      "10-100" := by
    decide +kernel
  rw [htext] at hlabel
  obtain ⟨hiff, -, horder⟩ := rangeLabel_iff hne hbounds "50ms"
  have hfifty := ((hiff _ hvalue _).1 hlabel).symm
  exact ⟨hne, hbounds, hlabel, hfifty, (horder _ fun b => by simp).trans hfifty⟩

end Facets

end PipeQuery
