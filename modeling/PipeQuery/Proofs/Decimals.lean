import PipeQuery.Proofs.NumbersIn
import PipeQuery.Proofs.Rounding
import PipeQuery.Number.Shown

/-!
# Decimal numbers and what they read as

A decimal number reads as the nearest magnitude of the format.  It may be
written with zeros at its end (`Binary64.ofDecimal_shift`), and what it reads as
is in the order of the decimal numbers (`Decimal.power_le_units`,
`Decimal.units_le_power`).

The digits that a number is written with are chosen so that they read back
(`Binary64.ofDecimal_shortest`): each candidate is read before it is taken, and
if none did, all digits of the value would be written, which are exact.
-/

namespace PipeQuery

/-! ## The length of a number -/

theorem lt_pow_decimalLength (n : Nat) : n < 10 ^ decimalLength n :=
  (Nat.length_toDigits_le_iff (by decide) Nat.length_toDigits_pos).1 (Nat.le_refl _)

theorem decimalLength_le_iff {n k : Nat} (hk : 0 < k) : decimalLength n ≤ k ↔ n < 10 ^ k :=
  Nat.length_toDigits_le_iff (by decide) hk

theorem decimalLength_pos (n : Nat) : 0 < decimalLength n := Nat.length_toDigits_pos

/-- The first digit of a positive number is not zero. -/
theorem pow_le_of_lt_decimalLength {n k : Nat} (hn : 0 < n) (hk : k < decimalLength n) :
    10 ^ k ≤ n := by
  cases k with
  | zero => exact hn
  | succ k =>
      by_contra hlt
      have := (decimalLength_le_iff (Nat.succ_pos k)).2 (Nat.lt_of_not_le hlt)
      omega

theorem decimalLength_eq {n k : Nat} (hlow : 10 ^ k ≤ n) (hhigh : n < 10 ^ (k + 1)) :
    decimalLength n = k + 1 := by
  have hle : decimalLength n ≤ k + 1 := (decimalLength_le_iff (Nat.succ_pos k)).2 hhigh
  have hlt : 10 ^ k < 10 ^ decimalLength n := Nat.lt_of_le_of_lt hlow (lt_pow_decimalLength n)
  have := (Nat.pow_lt_pow_iff_right (by decide)).1 hlt
  omega

theorem decimalLength_mul_pow {n : Nat} (hn : 0 < n) (k : Nat) :
    decimalLength (n * 10 ^ k) = decimalLength n + k := by
  have hpos := decimalLength_pos n
  have hlow : 10 ^ (decimalLength n - 1) ≤ n := pow_le_of_lt_decimalLength hn (by omega)
  have hhigh := lt_pow_decimalLength n
  have hlength := decimalLength_eq (n := n * 10 ^ k) (k := decimalLength n - 1 + k)
    (by rw [Nat.pow_add]; exact Nat.mul_le_mul_right _ hlow)
    (by
      rw [show decimalLength n - 1 + k + 1 = decimalLength n + k by omega, Nat.pow_add]
      exact Nat.mul_lt_mul_of_pos_right hhigh (Nat.pow_pos (by decide)))
  omega

/-! ## Decimal numbers as fractions -/

namespace Decimal

/-- The value in units is `num / den`. -/
def num (d : Decimal) : Nat := d.digits * 10 ^ d.exponent.toNat * unitsPerOne

/-- The denominator of the value in units. -/
def den (d : Decimal) : Nat := 10 ^ (-d.exponent).toNat

/-- The magnitude of the format nearest to the value. -/
def units (d : Decimal) : Nat := roundToSignificand d.num d.den

/-- The number of digits before the point. -/
def point (d : Decimal) : Int := d.exponent + decimalLength d.digits

theorem den_pos (d : Decimal) : 0 < d.den := Nat.pow_pos (by decide)

/-- Decimal numbers that are neither beyond the format nor below it. -/
structure InRange (d : Decimal) : Prop where
  digits : d.digits ≠ 0
  low : -330 ≤ d.point
  high : d.point ≤ 310

end Decimal

namespace Binary64

theorem ofDecimal_eq {d : Decimal} (h : d.InRange) (negative : Bool) :
    ofDecimal negative d = ofFraction negative d.num d.den := by
  have hlow := h.low
  have hhigh := h.high
  unfold Decimal.point at hlow hhigh
  unfold ofDecimal
  rw [if_neg h.digits, if_neg (by omega), if_neg (by omega)]
  unfold Decimal.num Decimal.den
  cases d.exponent with
  | ofNat e => simp [Nat.pow_eq]
  | negSucc e => simp [Nat.pow_eq]

theorem ofDecimal_of_high {d : Decimal} (hd : d.digits ≠ 0) (h : 310 < d.point) (negative : Bool) :
    ofDecimal negative d = infinite negative := by
  unfold Decimal.point at h
  unfold ofDecimal
  rw [if_neg hd, if_pos h]

theorem ofDecimal_of_low {d : Decimal} (hd : d.digits ≠ 0) (h : d.point < -330) (negative : Bool) :
    ofDecimal negative d = zero negative := by
  unfold Decimal.point at h
  unfold ofDecimal
  rw [if_neg hd, if_neg (by omega), if_pos h]

end Binary64

/-! ## Zeros at the end -/

theorem Decimal.point_shift {d : Nat} (hd : 0 < d) (k : Nat) (e : Int) :
    (⟨d * 10 ^ k, e⟩ : Decimal).point = (⟨d, e + k⟩ : Decimal).point := by
  simp only [point, decimalLength_mul_pow hd]
  omega

theorem Decimal.units_shift (d k : Nat) (e : Int) :
    (⟨d * 10 ^ k, e⟩ : Decimal).units = (⟨d, e + k⟩ : Decimal).units := by
  refine roundToSignificand_congr (den_pos _) (den_pos _) ?_
  simp only [num, den]
  have hpowers : k + e.toNat + (-(e + k)).toNat = (e + k).toNat + (-e).toNat := by omega
  calc d * 10 ^ k * 10 ^ e.toNat * unitsPerOne * 10 ^ (-(e + k)).toNat
      = d * unitsPerOne * 10 ^ (k + e.toNat + (-(e + k)).toNat) := by
        rw [Nat.pow_add, Nat.pow_add]
        ring
    _ = d * 10 ^ (e + k).toNat * unitsPerOne * 10 ^ (-e).toNat := by
        rw [hpowers, Nat.pow_add]
        ring

/-- **Zeros at the end** may as well stand in the exponent. -/
theorem Binary64.ofDecimal_shift (negative : Bool) (d k : Nat) (e : Int) :
    ofDecimal negative ⟨d * 10 ^ k, e⟩ = ofDecimal negative ⟨d, e + k⟩ := by
  rcases Nat.eq_zero_or_pos d with rfl | hd
  · simp [ofDecimal]
  · have hne : d ≠ 0 := by omega
    have hne' : d * 10 ^ k ≠ 0 := Nat.mul_ne_zero hne (Nat.pow_pos (by decide)).ne'
    have hpoint := Decimal.point_shift hd k e
    rcases Int.lt_or_le 310 (⟨d, e + k⟩ : Decimal).point with hhigh | hhigh
    · rw [ofDecimal_of_high hne hhigh, ofDecimal_of_high hne' (by omega)]
    · rcases Int.lt_or_le (⟨d, e + k⟩ : Decimal).point (-330) with hlow | hlow
      · rw [ofDecimal_of_low hne hlow, ofDecimal_of_low hne' (by omega)]
      · rw [ofDecimal_eq ⟨hne, hlow, hhigh⟩, ofDecimal_eq ⟨hne', by omega, by omega⟩]
        exact ofFraction_of_round (Decimal.units_shift d k e)

/-! ## Powers of ten -/

namespace Decimal

/-- A power of ten. -/
def power (p : Int) : Decimal := ⟨1, p⟩

/-- A number with digits before the place of a power of ten is no less. -/
theorem power_le_units {d : Decimal} (hd : d.digits ≠ 0) {p : Int} (h : p < d.point) :
    (power p).units ≤ d.units := by
  refine roundToSignificand_mono (den_pos _) (den_pos _) ?_
  have hpos := decimalLength_pos d.digits
  have hfirst : 10 ^ (decimalLength d.digits - 1) ≤ d.digits :=
    pow_le_of_lt_decimalLength (by omega) (by omega)
  unfold point at h
  simp only [num, den, power]
  calc 1 * 10 ^ p.toNat * unitsPerOne * 10 ^ (-d.exponent).toNat
      = unitsPerOne * 10 ^ (p.toNat + (-d.exponent).toNat) := by
        rw [Nat.pow_add]
        ring
    _ ≤ unitsPerOne *
          10 ^ (decimalLength d.digits - 1 + d.exponent.toNat + (-p).toNat) :=
        Nat.mul_le_mul_left _ (Nat.pow_le_pow_right (by decide) (by omega))
    _ = 10 ^ (decimalLength d.digits - 1) *
          (10 ^ d.exponent.toNat * unitsPerOne * 10 ^ (-p).toNat) := by
        rw [Nat.pow_add, Nat.pow_add]
        ring
    _ ≤ d.digits * (10 ^ d.exponent.toNat * unitsPerOne * 10 ^ (-p).toNat) :=
        Nat.mul_le_mul_right _ hfirst
    _ = d.digits * 10 ^ d.exponent.toNat * unitsPerOne * 10 ^ (-p).toNat := by ring

/-- A number without digits before that place is no greater. -/
theorem units_le_power {d : Decimal} {p : Int} (h : d.point ≤ p) :
    d.units ≤ (power p).units := by
  refine roundToSignificand_mono (den_pos _) (den_pos _) ?_
  unfold point at h
  simp only [num, den, power]
  calc d.digits * 10 ^ d.exponent.toNat * unitsPerOne * 10 ^ (-p).toNat
      = d.digits * (10 ^ d.exponent.toNat * unitsPerOne * 10 ^ (-p).toNat) := by ring
    _ ≤ 10 ^ decimalLength d.digits *
          (10 ^ d.exponent.toNat * unitsPerOne * 10 ^ (-p).toNat) :=
        Nat.mul_le_mul_right _ (Nat.le_of_lt (lt_pow_decimalLength d.digits))
    _ = unitsPerOne * 10 ^ (decimalLength d.digits + d.exponent.toNat + (-p).toNat) := by
        rw [Nat.pow_add, Nat.pow_add]
        ring
    _ ≤ unitsPerOne * 10 ^ (p.toNat + (-d.exponent).toNat) :=
        Nat.mul_le_mul_left _ (Nat.pow_le_pow_right (by decide) (by omega))
    _ = 1 * 10 ^ p.toNat * unitsPerOne * 10 ^ (-d.exponent).toNat := by
        rw [Nat.pow_add]
        ring

end Decimal

/-! ## Digits that read back -/

namespace Binary64

variable {units : Nat} (fits : FitsSignificand units) (bounded : units < overflowUnits)

theorem ofDecimal_of_readsAs {d : Decimal} (h : readsAs units d = true) :
    ofDecimal false d = finite false units fits bounded := by
  have hcount := isCount_ofDecimal d
  unfold readsAs at h
  cases hcount' : ofDecimal false d with
  | nan => rw [hcount'] at h; cases h
  | infinite negative => rw [hcount'] at h; cases h
  | finite negative u _ _ =>
      rw [hcount'] at h hcount
      obtain rfl : u = units := eq_of_beq h
      cases hcount
      rfl

/-- Of two candidates, one that reads back. -/
def oneOf (reads : Decimal → Bool) (preferBelow : Bool) (below above : Decimal) : Option Decimal :=
  match reads below, reads above with
  | true, true => some (if preferBelow then below else above)
  | true, false => some below
  | false, true => some above
  | false, false => none

theorem reads_of_oneOf {reads : Decimal → Bool} {preferBelow : Bool} {below above d : Decimal}
    (h : oneOf reads preferBelow below above = some d) : reads d = true := by
  unfold oneOf at h
  split at h
  · next hbelow habove =>
      rw [← Option.some.inj h]
      split
      · exact hbelow
      · exact habove
  · next hbelow _ => rwa [← Option.some.inj h]
  · next _ habove => rwa [← Option.some.inj h]
  · cases h

/-- A number of digits is taken only if they read back. -/
theorem readsAs_of_ofLength? {n : Nat} {d : Decimal} (h : ofLength? units n = some d) :
    readsAs units d = true := by
  -- the parts are named first, or else the powers of ten in them are computed with
  obtain ⟨reads, hreads⟩ : ∃ reads, reads = readsAs units := ⟨_, rfl⟩
  obtain ⟨scale, hscale⟩ : ∃ scale, scale = scaled units := ⟨_, rfl⟩
  generalize hf : @ofLength? = f at h
  delta ofLength? at hf
  subst hf
  beta_reduce at h
  rw [← hreads, ← hscale] at h
  rw [← hreads]
  dsimp only at h
  cases hfraction : scale (pointOf units - (n : Int)) with
  | mk num den =>
      rw [hfraction] at h
      exact reads_of_oneOf h

/-- All digits of a value are exact. -/
theorem ofDecimal_exactDecimal (hunits : 0 < units) :
    ofDecimal false (exactDecimal units) = finite false units fits bounded := by
  have hdigits : (exactDecimal units).digits = units * Nat.pow 5 1074 := rfl
  have hfive : 0 < Nat.pow 5 1074 := by decide +kernel
  have hone : Nat.pow 5 1074 * unitsPerOne = 10 ^ 1074 := by decide +kernel
  have hexact : (exactDecimal units).num * 1 = units * (exactDecimal units).den := by
    have hnum : (exactDecimal units).num = units * Nat.pow 5 1074 * 10 ^ 0 * unitsPerOne := by
      rw [Decimal.num, hdigits]
      rfl
    have hden : (exactDecimal units).den = 10 ^ 1074 :=
      congrArg (fun e => 10 ^ e) (by decide : (-(-1074 : Int)).toNat = 1074)
    rw [hnum, hden, Nat.pow_zero, Nat.mul_one, Nat.mul_one, Nat.mul_assoc, hone]
  have hlow : 10 ^ 743 < 10 ^ decimalLength (exactDecimal units).digits := by
    refine Nat.lt_of_le_of_lt ?_ (lt_pow_decimalLength _)
    rw [hdigits]
    exact Nat.le_trans (by decide +kernel) (Nat.le_mul_of_pos_left (Nat.pow 5 1074) hunits)
  have hhigh : decimalLength (exactDecimal units).digits ≤ 1384 := by
    rw [decimalLength_le_iff (by decide), hdigits]
    calc units * Nat.pow 5 1074 < overflowUnits * Nat.pow 5 1074 :=
          Nat.mul_lt_mul_of_pos_right bounded hfive
      _ ≤ 10 ^ 1384 := by decide +kernel
  have hlow' := (Nat.pow_lt_pow_iff_right (by decide)).1 hlow
  have hrange : (exactDecimal units).InRange := by
    refine ⟨?_, ?_, ?_⟩
    · rw [hdigits]
      exact Nat.mul_ne_zero (by omega) hfive.ne'
    · show -330 ≤ (-1074 : Int) + decimalLength (exactDecimal units).digits
      omega
    · show (-1074 : Int) + decimalLength (exactDecimal units).digits ≤ 310
      omega
  have hround : roundToSignificand (exactDecimal units).num (exactDecimal units).den = units :=
    (roundToSignificand_congr (Decimal.den_pos _) Nat.one_pos hexact).trans
      (roundToSignificand_of_fits fits)
  rw [ofDecimal_eq hrange]
  unfold ofFraction
  simp only [hround]
  exact dif_pos bounded

/-- **The digits that a number is written with read back.** -/
theorem ofDecimal_shortest (hunits : 0 < units) :
    ofDecimal false (shortest units) = finite false units fits bounded := by
  unfold shortest
  cases hfound : (List.range 17).findSome? fun k => ofLength? units (k + 1) with
  | none => exact ofDecimal_exactDecimal fits bounded hunits
  | some d =>
      obtain ⟨k, _, hk⟩ := List.exists_of_findSome?_eq_some hfound
      exact ofDecimal_of_readsAs fits bounded (readsAs_of_ofLength? hk)

/-- They are digits of a number in the range of the format. -/
theorem inRange_of_ofDecimal {d : Decimal} (hunits : 0 < units)
    (h : ofDecimal false d = finite false units fits bounded) : d.InRange ∧ d.units = units := by
  have hzero : ofDecimal false d ≠ zero false := by
    rw [h]
    intro hzero
    injection hzero with _ hzero
    omega
  have hdigits : d.digits ≠ 0 := fun hd => hzero (if_pos hd)
  have hrange : d.InRange := by
    refine ⟨hdigits, ?_, ?_⟩
    · by_contra hlow
      exact hzero (ofDecimal_of_low hdigits (by omega) false)
    · by_contra hhigh
      rw [ofDecimal_of_high hdigits (by omega)] at h
      cases h
  refine ⟨hrange, ?_⟩
  rw [ofDecimal_eq hrange, ofFraction] at h
  split at h
  · injection h
  · cases h

end Binary64

end PipeQuery
