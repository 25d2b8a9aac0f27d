import PipeQuery.Proofs.FacetSums
import PipeQuery.Proofs.NumbersShown
import PipeQuery.Proofs.RangeLabels
import Mathlib.Data.List.Chain

/-!
# Ranges told apart by their labels

The label of a range is made of the texts of its bounds, and a minus sign stands between them as
it may stand within them.  Still a label tells the texts that it was made of: a text ends in a
digit, and within it a minus sign never comes behind a digit (`BoundText`).

What a label does not tell is the bounds, because the texts have six digits only.  Two ranges
whose bounds are alike in these have one label, although neither of them holds the other's numbers,
and their counts are added up.

* `boundText_sixDigits`: the form of the text of a finite number.
* `labelBetween_inj`: the texts of both bounds are told by the label.
* `bucketLabel_eq_iff`: numbers have one label where they lie in one range, and where their ranges
  are written alike.
-/

namespace PipeQuery

open Binary64

/-! ## Six digits of a number -/

namespace Binary64

/-- A value that is at least a power of ten is not below one when it is scaled to no higher a
place. -/
theorem den_le_num_scaled {units power places : Nat} {place : ℤ}
    (h : unitsPerOne * 10 ^ power ≤ units * Nat.pow 10 places) (hplace : place ≤ power - places) :
    0 < (scaled units place).2 ∧ (scaled units place).2 ≤ (scaled units place).1 := by
  rw [Nat.pow_eq] at h
  have hten : ∀ k, 0 < 10 ^ k := fun k => Nat.pow_pos (by decide)
  cases place with
  | ofNat e =>
      simp only [scaled, Nat.pow_eq]
      rw [Int.ofNat_eq_natCast] at hplace
      refine ⟨Nat.mul_pos unitsPerOne_pos (hten e), ?_⟩
      refine Nat.le_of_mul_le_mul_right ?_ (hten places)
      calc unitsPerOne * 10 ^ e * 10 ^ places
          = unitsPerOne * 10 ^ (e + places) := by rw [Nat.mul_assoc, Nat.pow_add]
        _ ≤ unitsPerOne * 10 ^ power :=
          Nat.mul_le_mul_left _ (Nat.pow_le_pow_right (by decide) (by omega))
        _ ≤ units * 10 ^ places := h
  | negSucc e =>
      simp only [scaled, Nat.pow_eq]
      refine ⟨unitsPerOne_pos, ?_⟩
      refine Nat.le_of_mul_le_mul_right ?_ (hten places)
      calc unitsPerOne * 10 ^ places
          ≤ unitsPerOne * 10 ^ (power + (e + 1)) :=
            Nat.mul_le_mul_left _ (Nat.pow_le_pow_right (by decide) (by omega))
        _ = unitsPerOne * 10 ^ power * 10 ^ (e + 1) := by rw [Nat.pow_add, Nat.mul_assoc]
        _ ≤ units * 10 ^ places * 10 ^ (e + 1) := Nat.mul_le_mul_right _ h
        _ = units * 10 ^ (e + 1) * 10 ^ places := Nat.mul_right_comm _ _ _

/-- A value lies at or above the power of ten of its first digit. -/
theorem pow_le_of_pointOf {units : Nat} (hunits : 0 < units) :
    ∃ power : Nat, pointOf units = power + 1 - 324 ∧
      unitsPerOne * 10 ^ power ≤ units * Nat.pow 10 324 := by
  have hone : unitsPerOne ≤ Nat.pow 10 324 := by decide +kernel
  unfold pointOf
  generalize Nat.pow 10 324 = scale at hone ⊢
  have hpos : 0 < units * scale / unitsPerOne :=
    Nat.div_pos (hone.trans (Nat.le_mul_of_pos_left _ hunits)) unitsPerOne_pos
  have hlength := decimalLength_pos (units * scale / unitsPerOne)
  refine ⟨decimalLength (units * scale / unitsPerOne) - 1, by omega, ?_⟩
  have hlow := pow_le_of_lt_decimalLength hpos (Nat.sub_lt hlength Nat.one_pos)
  rw [Nat.le_div_iff_mul_le unitsPerOne_pos, Nat.mul_comm] at hlow
  exact hlow

theorem digits_roundedAt (units : Nat) (place : ℤ) :
    (roundedAt units place).digits =
      nearestWhole (scaled units place).1 (scaled units place).2 := by
  unfold roundedAt nearestWhole
  cases scaled units place
  rfl

/-- **Rounded to its first digits, a positive number is not zero.** -/
theorem digits_roundedAt_ne_zero {units : Nat} {place : ℤ} (hunits : 0 < units)
    (hplace : place < pointOf units) : (roundedAt units place).digits ≠ 0 := by
  obtain ⟨power, hpoint, hlow⟩ := pow_le_of_pointOf hunits
  have hscale : place ≤ (power : ℤ) - (324 : Nat) := by omega
  rw [digits_roundedAt]
  obtain ⟨hden, hnum⟩ := den_le_num_scaled hlow hscale
  exact Nat.ne_of_gt (le_nearestWhole hden (by rwa [Nat.one_mul]))

end Binary64

/-! ## Texts of bounds -/

/-- A minus sign does not come behind a digit. -/
def NoMinusBehindDigit (c d : Char) : Prop := c.isDigit = true → d ≠ '-'

/-- The form of the text of a bound: it ends in a digit, and a minus sign in it comes at its
beginning or behind the mark of an exponent. -/
structure BoundText (text : List Char) : Prop where
  first : ∃ c rest, text = c :: rest ∧ c ≠ '<'
  last : ∃ init d, text = init ++ [d] ∧ d.isDigit = true
  minus : text.IsChain NoMinusBehindDigit

theorem ne_minus_of_isDigit {c : Char} (h : c.isDigit = true) : c ≠ '-' := by
  rintro rfl
  exact absurd h (by decide)

theorem isChain_of_no_minus {text : List Char} (h : '-' ∉ text) :
    text.IsChain NoMinusBehindDigit := by
  induction text with
  | nil => exact .nil
  | cons c rest ih =>
      rw [List.mem_cons, not_or] at h
      cases rest with
      | nil => exact .singleton c
      | cons d rest =>
          refine List.isChain_cons_cons.2 ⟨fun _ hd => h.2 ?_, ih h.2⟩
          rw [hd]
          exact List.mem_cons_self ..

theorem exists_last {digits : List Char} (hne : digits ≠ []) (h : ∀ c ∈ digits, c.isDigit = true)
    (before : List Char) : ∃ init d, before ++ digits = init ++ [d] ∧ d.isDigit = true := by
  refine ⟨before ++ digits.dropLast, digits.getLast hne, ?_, h _ (List.getLast_mem hne)⟩
  rw [List.append_assoc, List.dropLast_append_getLast]

/-- **A text of a bound ends where a minus sign comes behind a digit.** -/
theorem BoundText.eq_of_append_minus {a a' b b' : List Char} (ha : BoundText a)
    (ha' : BoundText a') (h : a ++ '-' :: b = a' ++ '-' :: b') : a = a' := by
  -- if one of them went on, it would hold a minus sign behind the last digit of the other
  have hstop : ∀ {a more : List Char}, BoundText a → BoundText (a ++ '-' :: more) → False := by
    rintro a more ha hmore
    obtain ⟨init, d, rfl, hd⟩ := ha.last
    have hminus := hmore.minus
    rw [List.append_assoc, List.singleton_append, List.isChain_append_cons_cons] at hminus
    exact hminus.2.1 hd rfl
  rcases List.append_eq_append_iff.1 h with ⟨more, rfl, hmore⟩ | ⟨more, rfl, hmore⟩
  · cases more with
    | nil => rw [List.append_nil]
    | cons c more =>
        obtain ⟨rfl, -⟩ := List.cons.inj hmore
        exact (hstop ha ha').elim
  · cases more with
    | nil => rw [List.append_nil]
    | cons c more =>
        obtain ⟨rfl, -⟩ := List.cons.inj hmore
        exact (hstop ha' ha).elim

theorem exists_first {text : List Char} (hne : text ≠ [])
    (h : ∀ c ∈ text, isNumberChar c = true) (more : List Char) :
    ∃ c rest, text ++ more = c :: rest ∧ c ≠ '<' := by
  obtain ⟨c, rest, rfl⟩ := List.exists_cons_of_ne_nil hne
  exact ⟨c, rest ++ more, rfl, ne_of_isNumberChar (h c (List.mem_cons_self ..)) (by decide)⟩

/-- Digits and points have the form of a bound if they end in a digit. -/
theorem boundText_of_numberChars {text : List Char} (h : ∀ c ∈ text, isNumberChar c = true)
    (hlast : ∃ init d, text = init ++ [d] ∧ d.isDigit = true) : BoundText text where
  first := by
    obtain ⟨init, d, rfl, -⟩ := hlast
    obtain ⟨c, rest, heq, hc⟩ := exists_first (by simp) h []
    exact ⟨c, rest, by rw [← heq, List.append_nil], hc⟩
  last := hlast
  minus := isChain_of_no_minus fun hmem => absurd (h '-' hmem) (by decide)

theorem boundText_digits {digits : List Char} (hne : digits ≠ [])
    (h : ∀ c ∈ digits, c.isDigit = true) : BoundText digits :=
  boundText_of_numberChars (fun c hc => isNumberChar_of_isDigit (h c hc)) (exists_last hne h [])

theorem boundText_point {whole places : List Char} (hwhole : ∀ c ∈ whole, c.isDigit = true)
    (hplaces : ∀ c ∈ places, c.isDigit = true) (hne : places ≠ []) :
    BoundText (whole ++ '.' :: places) := by
  obtain ⟨init, d, heq, hd⟩ := exists_last hne hplaces (whole ++ ['.'])
  refine boundText_of_numberChars (fun c hc => ?_) ⟨init, d, by rw [← heq]; simp, hd⟩
  rcases List.mem_append.1 hc with hc | hc
  · exact isNumberChar_of_isDigit (hwhole c hc)
  · rcases List.mem_cons.1 hc with rfl | hc
    · decide
    · exact isNumberChar_of_isDigit (hplaces c hc)

theorem BoundText.cons_minus {text : List Char} (h : BoundText text) : BoundText ('-' :: text) where
  first := ⟨'-', text, rfl, by decide⟩
  last := by
    obtain ⟨init, d, rfl, hd⟩ := h.last
    exact ⟨'-' :: init, d, rfl, hd⟩
  minus := List.isChain_cons.2 ⟨fun _ _ hminus => absurd hminus (by decide), h.minus⟩

namespace Binary64

/-- An exponent may stand behind any digits and points. -/
theorem boundText_exponent {text : List Char} (h : ∀ c ∈ text, isNumberChar c = true)
    (hne : text ≠ []) (e : ℤ) : BoundText (text ++ shownExponent e) where
  first := exists_first hne h _
  last := by
    obtain ⟨init, d, heq, hd⟩ := exists_last (exponentDigits_ne_nil e)
      (fun _ => isDigit_of_mem_exponentDigits) (text ++ ['e', if e < 0 then '-' else '+'])
    exact ⟨init, d, by rw [shownExponent_eq, ← heq, List.append_assoc]; rfl, hd⟩
  minus := by
    have hexponent : (shownExponent e).IsChain NoMinusBehindDigit := by
      rw [shownExponent_eq]
      refine List.isChain_cons_cons.2 ⟨fun hdigit => absurd hdigit (by decide), ?_⟩
      refine List.isChain_cons.2 ⟨fun _ _ hdigit => ?_, isChain_of_no_minus fun hmem => ?_⟩
      · split at hdigit <;> exact absurd hdigit (by decide)
      · exact ne_minus_of_isDigit (isDigit_of_mem_exponentDigits hmem) rfl
    refine List.isChain_append.2
      ⟨isChain_of_no_minus fun hmem => absurd (h '-' hmem) (by decide), hexponent, ?_⟩
    rintro c - d hd -
    obtain rfl : 'e' = d := Option.some.inj hd
    decide

/-- **What is laid out has the form of a bound.** -/
theorem Significant.boundText {d : Decimal} {first : Char} {rest : List Char} {zeros : Nat}
    (h : Significant d first rest zeros) : BoundText (sixDigitLayout.write d) := by
  have hdigits := h.isDigit
  rw [Layout.write, h.eq]
  dsimp only
  split
  · -- with an exponent
    have hnumber : ∀ c ∈ first :: rest, isNumberChar c = true :=
      fun c hc => isNumberChar_of_isDigit (hdigits c hc)
    cases rest with
    | nil => exact boundText_exponent hnumber (List.cons_ne_nil _ _) _
    | cons second others =>
        have hpointed : ∀ c ∈ first :: '.' :: second :: others, isNumberChar c = true := by
          rw [List.forall_mem_cons] at hnumber
          exact List.forall_mem_cons.2 ⟨hnumber.1, List.forall_mem_cons.2 ⟨by decide, hnumber.2⟩⟩
        exact boundText_exponent hpointed (List.cons_ne_nil _ _) _
  · split
    · -- below one
      have hzero : ∀ c ∈ ['0'], c.isDigit = true := List.forall_mem_singleton.2 (by decide)
      have hplaces : ∀ c ∈ List.replicate (-d.point).toNat '0' ++ (first :: rest),
          c.isDigit = true :=
        List.forall_mem_append.2 ⟨fun c => isDigit_of_mem_zeros, hdigits⟩
      exact boundText_point hzero hplaces (by simp)
    · -- with a point among the digits, or with none
      have hwhole : ∀ c ∈ (first :: rest).take d.point.toNat ++
          List.replicate (d.point.toNat - (first :: rest).length) '0', c.isDigit = true :=
        List.forall_mem_append.2
          ⟨fun c hc => hdigits c (List.mem_of_mem_take hc), fun c => isDigit_of_mem_zeros⟩
      have hplaces : ∀ c ∈ (first :: rest).drop d.point.toNat, c.isDigit = true :=
        fun c hc => hdigits c (List.mem_of_mem_drop hc)
      have hne : (first :: rest).take d.point.toNat ++
          List.replicate (d.point.toNat - (first :: rest).length) '0' ≠ [] := by
        simp
        omega
      cases hdrop : (first :: rest).drop d.point.toNat with
      | nil =>
          simp only [List.isEmpty_nil, if_true, sixDigitLayout, Bool.false_eq_true, if_false,
            List.append_nil]
          exact boundText_digits hne hwhole
      | cons place others =>
          rw [hdrop] at hplaces
          simp only [List.isEmpty_cons, Bool.false_eq_true, if_false]
          exact boundText_point hwhole hplaces (List.cons_ne_nil _ _)

theorem boundText_withSign {text : List Char} (h : BoundText text) (negative : Bool) :
    BoundText (withSign negative text).toList := by
  rw [withSign, String.toList_ofList]
  cases negative with
  | false => exact h
  | true => exact h.cons_minus

/-- **The text of a finite number has the form of a bound.** -/
theorem boundText_sixDigits {x : Binary64} (hx : x.isFinite = true) :
    BoundText x.sixDigits.toList := by
  cases x with
  | nan => cases hx
  | infinite negative => cases hx
  | finite negative units fits bounded =>
      rw [sixDigits, written]
      refine boundText_withSign ?_ negative
      by_cases hunits : units = 0
      · rw [if_pos hunits]
        exact boundText_digits (by decide) (List.forall_mem_singleton.2 (by decide))
      · rw [if_neg hunits]
        have hplace : ∀ point : ℤ, point - 6 < point := fun point => by omega
        obtain ⟨first, rest, zeros, hdigits⟩ := exists_significant
          (digits_roundedAt_ne_zero (Nat.pos_of_ne_zero hunits) (hplace _))
        exact hdigits.boundText

end Binary64

/-! ## Labels tell the texts of their bounds -/

theorem BoundText.head?_append_ne {text : List Char} (h : BoundText text) (more : List Char) :
    (text ++ more).head? ≠ some '<' := by
  obtain ⟨c, rest, rfl, hc⟩ := h.first
  rw [List.cons_append, List.head?_cons]
  exact fun heq => hc (Option.some.inj heq)

theorem BoundText.getLast?_append_ne {text : List Char} (h : BoundText text)
    (before : List Char) : (before ++ text).getLast? ≠ some '+' := by
  obtain ⟨init, d, rfl, hd⟩ := h.last
  rw [← List.append_assoc, List.getLast?_concat]
  rintro heq
  rw [Option.some.inj heq] at hd
  exact absurd hd (by decide)

namespace Facets

theorem toList_labelBelow (hi : Number) :
    (labelBetween none (some hi)).toList = '<' :: hi.sixDigits.toList := by
  rw [labelBetween, String.toList_append]
  rfl

theorem toList_labelAbove (lo : Number) :
    (labelBetween (some lo) none).toList = lo.sixDigits.toList ++ ['+'] := by
  rw [labelBetween, String.toList_append]
  rfl

theorem toList_labelBetween (lo hi : Number) :
    (labelBetween (some lo) (some hi)).toList =
      lo.sixDigits.toList ++ '-' :: hi.sixDigits.toList := by
  rw [labelBetween, String.toList_append, String.toList_append, List.append_assoc]
  rfl

section Labels

variable {lo hi lo' hi' : Option Number}

/-- One bound or two, which are written as bounds are. -/
structure BoundTexts (lo hi : Option Number) : Prop where
  present : lo ≠ none ∨ hi ≠ none
  low : ∀ b ∈ lo, BoundText b.sixDigits.toList
  high : ∀ b ∈ hi, BoundText b.sixDigits.toList

/-- Only the label below all bounds begins with its mark. -/
theorem BoundTexts.low_eq_none_iff (h : BoundTexts lo hi) :
    lo = none ↔ (labelBetween lo hi).toList.head? = some '<' := by
  cases lo with
  | none =>
      cases hi with
      | none => exact absurd h.present (by simp)
      | some hi => exact iff_of_true rfl (by rw [toList_labelBelow, List.head?_cons])
  | some lo =>
      refine iff_of_false (Option.some_ne_none lo) ?_
      cases hi with
      | none => exact toList_labelAbove lo ▸ (h.low lo rfl).head?_append_ne _
      | some hi => exact toList_labelBetween lo hi ▸ (h.low lo rfl).head?_append_ne _

/-- Only the label above all bounds ends with its mark. -/
theorem BoundTexts.high_eq_none_iff (h : BoundTexts lo hi) :
    hi = none ↔ (labelBetween lo hi).toList.getLast? = some '+' := by
  cases hi with
  | none =>
      cases lo with
      | none => exact absurd h.present (by simp)
      | some lo => exact iff_of_true rfl (by rw [toList_labelAbove, List.getLast?_concat])
  | some hi =>
      refine iff_of_false (Option.some_ne_none hi) ?_
      cases lo with
      | none => exact toList_labelBelow hi ▸ (h.high hi rfl).getLast?_append_ne ['<']
      | some lo =>
          rw [toList_labelBetween, List.append_cons]
          exact (h.high hi rfl).getLast?_append_ne _

/-- **The label of a range tells the texts of its bounds.** -/
theorem labelBetween_inj (h : BoundTexts lo hi) (h' : BoundTexts lo' hi')
    (heq : labelBetween lo hi = labelBetween lo' hi') :
    lo.map Number.sixDigits = lo'.map Number.sixDigits ∧
      hi.map Number.sixDigits = hi'.map Number.sixDigits := by
  have hlow : lo = none ↔ lo' = none := by rw [h.low_eq_none_iff, h'.low_eq_none_iff, heq]
  have hhigh : hi = none ↔ hi' = none := by rw [h.high_eq_none_iff, h'.high_eq_none_iff, heq]
  have hsame : ∀ {b c : Number}, b.sixDigits.toList = c.sixDigits.toList →
      some b.sixDigits = some c.sixDigits :=
    fun htexts => congrArg some (String.toList_inj.1 htexts)
  replace heq := congrArg String.toList heq
  cases lo with
  | none =>
      obtain rfl := hlow.1 rfl
      obtain ⟨hi, rfl⟩ := Option.ne_none_iff_exists'.1 (h.present.resolve_left fun hne => hne rfl)
      obtain ⟨hi', rfl⟩ := Option.ne_none_iff_exists'.1 (h'.present.resolve_left fun hne => hne rfl)
      rw [toList_labelBelow, toList_labelBelow] at heq
      exact ⟨rfl, hsame (List.cons.inj heq).2⟩
  | some lo =>
      obtain ⟨lo', rfl⟩ := Option.ne_none_iff_exists'.1 (mt hlow.2 (Option.some_ne_none lo))
      cases hi with
      | none =>
          obtain rfl := hhigh.1 rfl
          rw [toList_labelAbove, toList_labelAbove] at heq
          exact ⟨hsame (List.append_cancel_right heq), rfl⟩
      | some hi =>
          obtain ⟨hi', rfl⟩ := Option.ne_none_iff_exists'.1 (mt hhigh.2 (Option.some_ne_none hi))
          rw [toList_labelBetween, toList_labelBetween] at heq
          have htext := (h.low lo rfl).eq_of_append_minus (h'.low lo' rfl) heq
          rw [htext] at heq
          exact ⟨hsame htext, hsame (List.cons.inj (List.append_cancel_left heq)).2⟩

/-- The texts of the bounds make the label. -/
theorem labelBetween_congr (hlow : lo.map Number.sixDigits = lo'.map Number.sixDigits)
    (hhigh : hi.map Number.sixDigits = hi'.map Number.sixDigits) :
    labelBetween lo hi = labelBetween lo' hi' := by
  cases lo <;> cases lo' <;> cases hi <;> cases hi' <;> simp_all [labelBetween]

end Labels

/-! ## Ranges -/

/-- The range of a number among ascending bounds: how many of them are at or below it. -/
def rangeOf (bounds : List Number) (x : Binary64) : Nat := bounds.countP fun b => b.le (.binary x)

/-- The label of the range with so many bounds at or below it. -/
def labelOfRange (bounds : List Number) (range : Nat) : String :=
  labelBetween (bounds.take range).getLast? (bounds.drop range).head?

/-- Two ranges between bounds, whose bounds are the same in six digits. -/
structure WrittenAlike (bounds : List Number) (range range' : Nat) : Prop where
  inside : 0 < range ∧ range < bounds.length
  inside' : 0 < range' ∧ range' < bounds.length
  low : bounds[range - 1]?.map Number.sixDigits = bounds[range' - 1]?.map Number.sixDigits
  high : bounds[range]?.map Number.sixDigits = bounds[range']?.map Number.sixDigits

/-- The bound below a range is missing for the first range only. -/
theorem getLast?_take_eq {bounds : List Number} {range : Nat} (h : range ≤ bounds.length) :
    (bounds.take range).getLast? = if range = 0 then none else bounds[range - 1]? := by
  cases range with
  | zero => rfl
  | succ n =>
      rw [List.getLast?_take, if_neg (Nat.succ_ne_zero n), if_neg (Nat.succ_ne_zero n),
        Nat.add_sub_cancel, List.getElem?_eq_getElem h, Option.some_or]

section Ranges

variable {bounds : List Number} (hfinite : ∀ b ∈ bounds, b.toBinary64.isFinite = true)

include hfinite

theorem boundTexts_of_range (hne : bounds ≠ []) (range : Nat) :
    BoundTexts (bounds.take range).getLast? (bounds.drop range).head? where
  present := by
    rw [ne_eq, ne_eq, List.getLast?_eq_none_iff, List.head?_eq_none_iff, ← not_and_or,
      ← List.append_eq_nil_iff, List.take_append_drop]
    exact hne
  low b hb := boundText_sixDigits (hfinite b (List.mem_of_mem_take (List.mem_of_getLast? hb)))
  high b hb := boundText_sixDigits (hfinite b (List.mem_of_mem_drop (List.mem_of_head? hb)))

/-- **Two ranges have one label** where they are one, or written alike. -/
theorem labelOfRange_eq_iff (hne : bounds ≠ []) {range range' : Nat}
    (h : range ≤ bounds.length) (h' : range' ≤ bounds.length) :
    labelOfRange bounds range = labelOfRange bounds range' ↔
      range = range' ∨ WrittenAlike bounds range range' := by
  constructor
  · intro heq
    obtain ⟨hlow, hhigh⟩ := labelBetween_inj (boundTexts_of_range hfinite hne range)
      (boundTexts_of_range hfinite hne range') heq
    have hfirst : range = 0 ↔ range' = 0 := by
      have hnone : ∀ n, (bounds.take n).getLast?.map Number.sixDigits = none ↔ n = 0 := by
        simp [hne]
      rw [← hnone, ← hnone, hlow]
    have hlast : bounds.length ≤ range ↔ bounds.length ≤ range' := by
      have hnone : ∀ n, (bounds.drop n).head?.map Number.sixDigits = none ↔ bounds.length ≤ n := by
        simp
      rw [← hnone, ← hnone, hhigh]
    rw [getLast?_take_eq h, getLast?_take_eq h'] at hlow
    rw [List.head?_drop, List.head?_drop] at hhigh
    by_cases hzero : range = 0
    · exact .inl (hzero.trans (hfirst.1 hzero).symm)
    · by_cases hlength : bounds.length ≤ range
      · have hlength' := hlast.1 hlength
        exact .inl (by omega)
      · rw [if_neg hzero, if_neg (mt hfirst.2 hzero)] at hlow
        exact .inr ⟨by omega, by omega, hlow, hhigh⟩
  · rintro (rfl | halike)
    · rfl
    · have hzero := halike.inside.1.ne'
      have hzero' := halike.inside'.1.ne'
      refine labelBetween_congr ?_ ?_
      · rw [getLast?_take_eq h, getLast?_take_eq h', if_neg hzero, if_neg hzero']
        exact halike.low
      · rw [List.head?_drop, List.head?_drop]
        exact halike.high

/-- **If all bounds are written differently**, no two ranges are written alike. -/
theorem labelOfRange_inj_of_nodup (hne : bounds ≠ [])
    (htexts : (bounds.map Number.sixDigits).Nodup) {range range' : Nat}
    (h : range ≤ bounds.length) (h' : range' ≤ bounds.length)
    (heq : labelOfRange bounds range = labelOfRange bounds range') : range = range' := by
  refine ((labelOfRange_eq_iff hfinite hne h h').1 heq).elim id fun halike => ?_
  have hinside : range < (bounds.map Number.sixDigits).length :=
    (List.length_map _).symm ▸ halike.inside.2
  have htext := halike.high
  rw [← List.getElem?_map, ← List.getElem?_map] at htext
  exact (List.getElem?_inj hinside htexts).1 htext

omit hfinite in
theorem isNaN_of_isFinite {b : Number} (h : b.toBinary64.isFinite = true) : b.isNaN = false := by
  cases b with
  | integer n => rfl
  | binary x =>
      cases x with
      | nan => cases h
      | infinite negative => rfl
      | finite negative units fits bounded => rfl

variable (hincreasing : bounds.Pairwise fun a b => a.lt b = true)

include hincreasing

theorem ascending_of_increasing : AscendingBy Number.place bounds := by
  refine hincreasing.imp_of_mem fun {a b} ha hb hlt => le_of_lt ?_
  exact (Number.lt_iff_place_lt (isNaN_of_isFinite (hfinite a ha))
    (isNaN_of_isFinite (hfinite b hb))).1 hlt

/-- **A number is labelled by its range.** -/
theorem bucketLabel_eq_labelOfRange (hne : bounds ≠ []) {value : String} {x : Binary64}
    (hvalue : valueNumber? value = some x) :
    bucketLabel value bounds = labelOfRange bounds (rangeOf bounds x) := by
  have hnumbers : ∀ b ∈ bounds, b.isNaN = false := fun b hb => isNaN_of_isFinite (hfinite b hb)
  have hx : (Number.binary x).isNaN = false := isNaN_of_valueNumber? hvalue
  have hascending := ascending_of_increasing hfinite hincreasing
  have hsorted : sortBounds bounds = bounds :=
    (sortBounds_eq_sortBy hnumbers).trans (eq_sortBy hascending fun _ => rfl).symm
  obtain ⟨below, above, rfl, hparted⟩ := exists_parted (.binary x) hascending
  -- the bounds at or below the number come first, so they are counted by their number
  have hcount : rangeOf (below ++ above) x = below.length := by
    rw [rangeOf, List.countP_append, List.countP_eq_length.2, List.countP_eq_zero.2, Nat.add_zero]
    · intro b hb
      have hmem := List.mem_append_right below hb
      rw [Number.le_iff_place_le (hnumbers b hmem) hx, not_le]
      exact hparted.greater b hb
    · intro b hb
      have hmem := List.mem_append_left above hb
      exact (Number.le_iff_place_le (hnumbers b hmem) hx).2 (hparted.atMost b hb)
  rw [bucketLabel_of_parted hvalue hne hnumbers hsorted hparted, labelOfRange, hcount,
    List.take_left, List.drop_left]

/-- **Numbers in increasing bounds have one label** where they lie in one range, and where their
ranges are written alike: a label has only six digits of each bound.  So if all bounds are written
differently, ranges stay apart.  Without bounds, values label themselves.  All counts of values
with one label are added up. -/
theorem bucketLabel_eq_iff {value value' : String} {x x' : Binary64}
    (hvalue : valueNumber? value = some x) (hvalue' : valueNumber? value' = some x') :
    (bounds = [] → (bucketLabel value bounds = bucketLabel value' bounds ↔ value = value')) ∧
    (bounds ≠ [] →
      (bucketLabel value bounds = bucketLabel value' bounds ↔
        rangeOf bounds x = rangeOf bounds x' ∨
          WrittenAlike bounds (rangeOf bounds x) (rangeOf bounds x')) ∧
      ((bounds.map Number.sixDigits).Nodup →
        (bucketLabel value bounds = bucketLabel value' bounds ↔
          rangeOf bounds x = rangeOf bounds x'))) ∧
    ∀ counts : OrderedMap String Int,
      (bucketCounts bounds counts).valueAt (bucketLabel value bounds) =
        counts.sumOver fun v => bucketLabel v bounds = bucketLabel value bounds := by
  refine ⟨fun hnil => ?_, fun hne => ?_, fun counts => ?_⟩
  · rw [hnil, bucketLabel_of_no_bounds, bucketLabel_of_no_bounds]
  · have hrange : ∀ y, rangeOf bounds y ≤ bounds.length := fun y => List.countP_le_length
    rw [bucketLabel_eq_labelOfRange hfinite hincreasing hne hvalue,
      bucketLabel_eq_labelOfRange hfinite hincreasing hne hvalue']
    refine ⟨labelOfRange_eq_iff hfinite hne (hrange x) (hrange x'), fun htexts => ?_⟩
    exact ⟨labelOfRange_inj_of_nodup hfinite hne htexts (hrange x) (hrange x'),
      congrArg (labelOfRange bounds)⟩
  · rw [bucketCounts_eq_relabel]
    exact OrderedMap.valueAt_relabel (bucketLabel · bounds) counts _

end Ranges

/-- Bounds a minute apart, in milliseconds. -/
def minuteBounds : List Number :=
  [.integer 1709287200000, .integer 1709287260000, .integer 1709287320000]

/-- Two instants a minute apart, each counted once. -/
def twoInstants : OrderedMap String Int :=
  .ofList [("1709287210000", 1), ("1709287270000", 1)]

/-- Ranges of a minute are written alike, so the counts of different minutes are added up. -/
theorem bucketLabel_of_minutes :
    (∀ b ∈ minuteBounds, b.toBinary64.isFinite = true) ∧
    (minuteBounds.Pairwise fun a b => a.lt b = true) ∧
    valueNumber? "1709287210000" = some (.ofInt 1709287210000) ∧
    valueNumber? "1709287270000" = some (.ofInt 1709287270000) ∧
    rangeOf minuteBounds (.ofInt 1709287210000) ≠ rangeOf minuteBounds (.ofInt 1709287270000) ∧
    bucketLabel "1709287210000" minuteBounds = bucketLabel "1709287270000" minuteBounds ∧
    (bucketCounts minuteBounds twoInstants).valueAt (bucketLabel "1709287210000" minuteBounds) =
      2 := by
  have hfinite : ∀ b ∈ minuteBounds, b.toBinary64.isFinite = true := by decide +kernel
  have hincreasing : minuteBounds.Pairwise fun a b => a.lt b = true := by decide +kernel
  have hfirst : valueNumber? "1709287210000" = some (.ofInt 1709287210000) := by decide +kernel
  have hsecond : valueNumber? "1709287270000" = some (.ofInt 1709287270000) := by decide +kernel
  have hrange : rangeOf minuteBounds (.ofInt 1709287210000) = 1 := by decide +kernel
  have hrange' : rangeOf minuteBounds (.ofInt 1709287270000) = 2 := by decide +kernel
  have halike : WrittenAlike minuteBounds 1 2 :=
    ⟨by decide, by decide, by decide +kernel, by decide +kernel⟩
  have hne : minuteBounds ≠ [] := List.cons_ne_nil _ _
  obtain ⟨-, hranges, hcounts⟩ := bucketLabel_eq_iff hfinite hincreasing hfirst hsecond
  obtain ⟨hiff, -⟩ := hranges hne
  rw [hrange, hrange'] at hiff
  have hlabel := hiff.2 (.inr halike)
  refine ⟨hfinite, hincreasing, hfirst, hsecond, by rw [hrange, hrange']; decide, hlabel, ?_⟩
  have hentries : twoInstants.entries = [("1709287210000", 1), ("1709287270000", 1)] := by
    decide +kernel
  rw [hcounts, OrderedMap.sumOver, hentries]
  simp [hlabel]

end Facets

end PipeQuery
