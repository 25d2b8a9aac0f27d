import PipeQuery.Number.Binary64
import Mathlib.Tactic.Ring
import Mathlib.Tactic.Linarith

/-!
# Rounding to 53 bits

A fraction is rounded to the nearest magnitude that 53 bits and a power of two
can hold (`roundToSignificand`).  The size of the steps between such magnitudes
changes with the fraction, and yet rounding keeps order:

* `roundToSignificand_mono`: the greater fraction is not rounded to the lesser
  magnitude; so equal fractions are rounded alike, however they are written
  (`roundToSignificand_congr`).
* `roundToSignificand_of_fits`: a magnitude of the format is its own rounding.
* `fits_whole`, `unitsPerOne_dvd`: whole numbers up to 2⁵³ are exact, and beyond
  there is nothing but whole numbers.

Within one size of steps, this is the order of nearest whole numbers
(`nearestWhole_mono`).  Between two sizes lies a power of two that neither
rounding crosses.
-/

namespace PipeQuery

/-! ## Nearest whole numbers -/

/-- The whole number nearest to a fraction; a half goes to the even one. -/
def nearestWhole (num den : Nat) : Nat :=
  if 2 * (num % den) < den then num / den
  else if den < 2 * (num % den) then num / den + 1
  else num / den + num / den % 2

/-- Rounding to 53 bits is rounding to a whole number of steps. -/
theorem roundToSignificand_eq (num den : Nat) :
    roundToSignificand num den =
      nearestWhole num (den * 2 ^ excessBits (num / den)) * 2 ^ excessBits (num / den) := rfl

/-- `whole` is nearest to the fraction: at most a half away, and at a half even. -/
structure IsNearest (num den whole : Nat) : Prop where
  below : 2 * (whole * den) ≤ 2 * num + den
  above : 2 * num ≤ 2 * (whole * den) + den
  even : 2 * (whole * den) = 2 * num + den ∨ 2 * num = 2 * (whole * den) + den → whole % 2 = 0

theorem isNearest_nearestWhole (num : Nat) {den : Nat} (hden : 0 < den) :
    IsNearest num den (nearestWhole num den) := by
  have hsplit : num / den * den + num % den = num := Nat.div_add_mod' num den
  have hrest : num % den < den := Nat.mod_lt num hden
  have hnext : (num / den + 1) * den = num / den * den + den := Nat.succ_mul _ _
  unfold nearestWhole
  split
  · constructor <;> omega
  · split
    · constructor <;> rw [hnext] <;> omega
    · rcases Nat.mod_two_eq_zero_or_one (num / den) with heven | hodd
      · rw [heven, Nat.add_zero]
        constructor <;> omega
      · rw [hodd]
        constructor <;> rw [hnext] <;> omega

/-- **The nearest whole numbers are in the order of the fractions.** -/
theorem IsNearest.mono {num den num' den' whole whole' : Nat} (h : IsNearest num den whole)
    (h' : IsNearest num' den' whole') (hden : 0 < den) (hden' : 0 < den')
    (hle : num * den' ≤ num' * den) : whole ≤ whole' := by
  by_contra hlt
  have hbelow := Nat.mul_le_mul_right den' h.below
  have habove := Nat.mul_le_mul_right den h'.above
  have hpos : 0 < den * den' := Nat.mul_pos hden hden'
  -- both fractions lie between the two whole numbers, which leaves only a half
  have hnext : whole = whole' + 1 := by
    have : whole * (den * den') ≤ (whole' + 1) * (den * den') := by nlinarith
    have := Nat.le_of_mul_le_mul_right this hpos
    omega
  subst hnext
  have hhalf : 2 * ((whole' + 1) * den) = 2 * num + den := by
    refine Nat.eq_of_mul_eq_mul_right hden' ?_
    nlinarith
  have hhalf' : 2 * num' = 2 * (whole' * den') + den' := by
    refine Nat.eq_of_mul_eq_mul_right hden ?_
    nlinarith
  have heven := h.even (Or.inl hhalf)
  have heven' := h'.even (Or.inr hhalf')
  omega

theorem isNearest_whole (whole : Nat) {den : Nat} (hden : 0 < den) :
    IsNearest (whole * den) den whole := by
  constructor <;> omega

theorem nearestWhole_mono {num den num' den' : Nat} (hden : 0 < den) (hden' : 0 < den')
    (h : num * den' ≤ num' * den) : nearestWhole num den ≤ nearestWhole num' den' :=
  (isNearest_nearestWhole num hden).mono (isNearest_nearestWhole num' hden') hden hden' h

/-- What is at most a whole number is not rounded above it. -/
theorem nearestWhole_le {num den whole : Nat} (hden : 0 < den) (h : num ≤ whole * den) :
    nearestWhole num den ≤ whole :=
  (isNearest_nearestWhole num hden).mono (isNearest_whole whole hden) hden hden
    (Nat.mul_le_mul_right den h)

theorem le_nearestWhole {num den whole : Nat} (hden : 0 < den) (h : whole * den ≤ num) :
    whole ≤ nearestWhole num den :=
  (isNearest_whole whole hden).mono (isNearest_nearestWhole num hden) hden hden
    (Nat.mul_le_mul_right den h)

theorem nearestWhole_whole (whole : Nat) {den : Nat} (hden : 0 < den) :
    nearestWhole (whole * den) den = whole :=
  Nat.le_antisymm (nearestWhole_le hden (Nat.le_refl _)) (le_nearestWhole hden (Nat.le_refl _))

/-! ## Steps -/

theorem excessBits_mono {m n : Nat} (h : m ≤ n) : excessBits m ≤ excessBits n := by
  unfold excessBits
  by_cases hm : m = 0
  · simp [hm]
  · have hn : n ≠ 0 := by omega
    have hlog : m.log2 ≤ n.log2 := (Nat.le_log2 hn).2 (Nat.le_trans (Nat.log2_self_le hm) h)
    omega

/-- In steps, a magnitude has at most 53 bits. -/
theorem lt_steps (num : Nat) {den : Nat} (hden : 0 < den) :
    num < 2 ^ 53 * (den * 2 ^ excessBits (num / den)) := by
  have h := div_excess_lt (num / den)
  rw [Nat.pow_eq, Nat.pow_eq, Nat.div_div_eq_div_mul] at h
  exact (Nat.div_lt_iff_lt_mul (Nat.mul_pos hden (Nat.two_pow_pos _))).1 h

/-- Where steps are greater than one, a magnitude has 53 bits. -/
theorem steps_le {num den : Nat} (h : 0 < excessBits (num / den)) :
    2 ^ 52 * (den * 2 ^ excessBits (num / den)) ≤ num := by
  have hne : num / den ≠ 0 := by
    intro hzero
    rw [hzero] at h
    exact absurd h (by decide)
  have hbits : (num / den).log2 = 52 + excessBits (num / den) := by
    unfold excessBits at h ⊢
    omega
  have hlow := Nat.log2_self_le hne
  rw [hbits, Nat.pow_add] at hlow
  calc 2 ^ 52 * (den * 2 ^ excessBits (num / den))
      = 2 ^ 52 * 2 ^ excessBits (num / den) * den := by ring
    _ ≤ num / den * den := Nat.mul_le_mul_right den hlow
    _ ≤ num := Nat.div_mul_le_self num den

/-! ## Rounding -/

/-- **Rounding keeps order.** -/
theorem roundToSignificand_mono {num den num' den' : Nat} (hden : 0 < den) (hden' : 0 < den')
    (h : num * den' ≤ num' * den) : roundToSignificand num den ≤ roundToSignificand num' den' := by
  have hfloor : num / den ≤ num' / den' := by
    rw [Nat.le_div_iff_mul_le hden']
    refine Nat.le_of_mul_le_mul_right ?_ hden
    have := Nat.div_mul_le_self num den
    nlinarith
  have hpos : ∀ n, 0 < den * 2 ^ n := fun n => Nat.mul_pos hden (Nat.two_pow_pos n)
  have hpos' : ∀ n, 0 < den' * 2 ^ n := fun n => Nat.mul_pos hden' (Nat.two_pow_pos n)
  rw [roundToSignificand_eq, roundToSignificand_eq]
  rcases Nat.lt_or_eq_of_le (excessBits_mono hfloor) with hsteps | hsteps
  · -- the greater fraction has greater steps: 53 bits of the lesser lie below its least
    have hlow : nearestWhole num (den * 2 ^ excessBits (num / den)) ≤ 2 ^ 53 :=
      nearestWhole_le (hpos _) (Nat.le_of_lt (lt_steps num hden))
    have hhigh : 2 ^ 52 ≤ nearestWhole num' (den' * 2 ^ excessBits (num' / den')) :=
      le_nearestWhole (hpos' _) (steps_le (by omega))
    calc _ ≤ 2 ^ 53 * 2 ^ excessBits (num / den) := Nat.mul_le_mul_right _ hlow
      _ = 2 ^ 52 * 2 ^ (excessBits (num / den) + 1) := by ring
      _ ≤ 2 ^ 52 * 2 ^ excessBits (num' / den') :=
        Nat.mul_le_mul_left _ (Nat.pow_le_pow_right (by decide) hsteps)
      _ ≤ _ := Nat.mul_le_mul_right _ hhigh
  · rw [hsteps]
    refine Nat.mul_le_mul_right _ (nearestWhole_mono (hpos _) (hpos' _) ?_)
    calc num * (den' * 2 ^ excessBits (num' / den'))
        = num * den' * 2 ^ excessBits (num' / den') := by ring
      _ ≤ num' * den * 2 ^ excessBits (num' / den') := Nat.mul_le_mul_right _ h
      _ = num' * (den * 2 ^ excessBits (num' / den')) := by ring

/-- Equal fractions are rounded alike. -/
theorem roundToSignificand_congr {num den num' den' : Nat} (hden : 0 < den) (hden' : 0 < den')
    (h : num * den' = num' * den) : roundToSignificand num den = roundToSignificand num' den' :=
  Nat.le_antisymm (roundToSignificand_mono hden hden' (Nat.le_of_eq h))
    (roundToSignificand_mono hden' hden (Nat.le_of_eq h.symm))

/-- A magnitude of the format is a whole number of its steps. -/
theorem steps_dvd_of_fits {n : Nat} (h : FitsSignificand n) : 2 ^ excessBits n ∣ n := by
  obtain ⟨m, s, hm, rfl⟩ := h
  rw [Nat.pow_eq] at hm ⊢
  by_cases hzero : m * 2 ^ s = 0
  · rw [hzero]
    exact Nat.dvd_zero _
  · rcases Nat.lt_or_eq_of_le hm with hlt | rfl
    · have hbits : (m * 2 ^ s).log2 < 53 + s := by
        rw [Nat.log2_lt hzero, Nat.pow_add]
        exact Nat.mul_lt_mul_of_pos_right hlt (Nat.two_pow_pos s)
      refine Nat.dvd_trans (Nat.pow_dvd_pow 2 ?_) (Nat.dvd_mul_left _ _)
      unfold excessBits
      omega
    · have hbits : (2 ^ 53 * 2 ^ s).log2 < 54 + s := by
        rw [Nat.log2_lt hzero, ← Nat.pow_add]
        exact Nat.pow_lt_pow_right (by decide) (by omega)
      rw [← Nat.pow_add] at hbits ⊢
      refine Nat.pow_dvd_pow 2 ?_
      unfold excessBits
      omega

/-- **A magnitude of the format is its own rounding.** -/
theorem roundToSignificand_of_fits {n : Nat} (h : FitsSignificand n) :
    roundToSignificand n 1 = n := by
  have hdvd := steps_dvd_of_fits h
  rw [roundToSignificand_eq, Nat.div_one, Nat.one_mul]
  generalize excessBits n = e at hdvd ⊢
  obtain ⟨k, rfl⟩ := hdvd
  rw [Nat.mul_comm (2 ^ e) k, nearestWhole_whole k (Nat.two_pow_pos e)]

/-- Fractions that are rounded alike are the same number. -/
theorem Binary64.ofFraction_of_round {negative : Bool} {num den num' den' : Nat}
    (h : roundToSignificand num den = roundToSignificand num' den') :
    ofFraction negative num den = ofFraction negative num' den' := by
  unfold ofFraction
  simp only [h]

/-- A fraction that is not rounded to too great a magnitude is finite. -/
theorem Binary64.ofFraction_of_lt {num den units : Nat} (negative : Bool)
    (h : roundToSignificand num den = units) (bounded : units < overflowUnits) :
    ∃ fits, ofFraction negative num den = .finite negative units fits bounded := by
  subst h
  exact ⟨_, dif_pos bounded⟩

theorem Binary64.ofFraction_zero (negative : Bool) (den : Nat) :
    ofFraction negative 0 den = zero negative := by
  have hround : roundToSignificand 0 den = 0 := by simp [roundToSignificand_eq, nearestWhole]
  obtain ⟨_, hzero⟩ := ofFraction_of_lt negative hround (unitsOfTwo_pos 1024)
  exact hzero

/-! ## Whole numbers -/

theorem unitsPerOne_pos : 0 < unitsPerOne := unitsOfTwo_pos 0

theorem unitsOfTwo_eq (exponent : Nat) : unitsOfTwo exponent = 2 ^ exponent * unitsPerOne := by
  unfold unitsPerOne unitsOfTwo
  generalize 1074 = bits
  rw [Nat.pow_eq, Nat.pow_eq, Nat.zero_add, Nat.pow_add]

/-- Whole numbers up to 2⁵³ are magnitudes of the format. -/
theorem fits_whole {n : Nat} (h : n ≤ 2 ^ 53) : FitsSignificand (n * unitsPerOne) := by
  unfold unitsPerOne unitsOfTwo
  exact ⟨n, _, h, rfl⟩

theorem whole_lt_overflow {n : Nat} (h : n ≤ 2 ^ 53) : n * unitsPerOne < overflowUnits := by
  have hpow : ∀ e > 53, 2 ^ 53 < 2 ^ e := fun e he => Nat.pow_lt_pow_right (by decide) he
  rw [overflowUnits, unitsOfTwo_eq]
  exact Nat.mul_lt_mul_of_pos_right (Nat.lt_of_le_of_lt h (hpow _ (by decide))) unitsPerOne_pos

/-- From 2⁵³ on, magnitudes of the format have no fractions. -/
theorem unitsPerOne_dvd {units : Nat} (h : FitsSignificand units)
    (hgreat : 2 ^ 53 * unitsPerOne ≤ units) : unitsPerOne ∣ units := by
  unfold unitsPerOne unitsOfTwo at hgreat ⊢
  generalize 0 + 1074 = bits at hgreat ⊢
  obtain ⟨m, s, hm, rfl⟩ := h
  rw [Nat.pow_eq] at hm hgreat ⊢
  have hs : bits ≤ s := by
    by_contra hlt
    have hhigh : m * 2 ^ s < 2 ^ 53 * 2 ^ bits :=
      Nat.lt_of_le_of_lt (Nat.mul_le_mul_right _ hm)
        (Nat.mul_lt_mul_of_pos_left (Nat.pow_lt_pow_right (by decide) (by omega)) (by decide))
    exact absurd hhigh (Nat.not_lt.2 hgreat)
  exact Nat.dvd_trans (Nat.pow_dvd_pow 2 hs) (Nat.dvd_mul_left _ _)

end PipeQuery
