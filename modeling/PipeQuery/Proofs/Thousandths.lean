import PipeQuery.Proofs.Rounding

/-!
# Thousandths as binary64 numbers

Milliseconds are divided by a thousand, and later the seconds are multiplied by a thousand again.
Both results are rounded.  In between, the seconds are rounded to microseconds, which changes
nothing: either the milliseconds are found again among the microseconds, or the steps of seconds are
so large that the same seconds are nearest.

* `roundToSignificand_of_steps`: between two powers of two a quotient is rounded to the nearest of
  equal steps.
* `seconds_of_microsOf`: the seconds of the microseconds of seconds are those seconds.
* `LosesOne`, `Shifted.millis_of_seconds`: which milliseconds are one less after a division and a
  multiplication, and that all others are the same.
-/

namespace PipeQuery

/-! ## Steps of a certain size -/

theorem excessBits_eq {n s : Nat} (hlow : 2 ^ (52 + s) ≤ n) (hhigh : n < 2 ^ (53 + s)) :
    excessBits n = s := by
  have hne : n ≠ 0 := Nat.ne_of_gt (Nat.lt_of_lt_of_le (Nat.two_pow_pos _) hlow)
  have hle := (Nat.le_log2 hne).2 hlow
  have hlt := (Nat.log2_lt hne).2 hhigh
  unfold excessBits
  omega

/-- Between two powers of two, all steps are of one size. -/
theorem roundToSignificand_of_steps {num den s : Nat} (hden : 0 < den)
    (hlow : 2 ^ 52 * (den * 2 ^ s) ≤ num) (hhigh : num < 2 ^ 53 * (den * 2 ^ s)) :
    roundToSignificand num den = nearestWhole num (den * 2 ^ s) * 2 ^ s := by
  have hsteps : excessBits (num / den) = s := by
    refine excessBits_eq ?_ ?_
    · rw [Nat.le_div_iff_mul_le hden, Nat.pow_add]
      calc 2 ^ 52 * 2 ^ s * den = 2 ^ 52 * (den * 2 ^ s) := by ring
        _ ≤ num := hlow
    · rw [Nat.div_lt_iff_lt_mul hden, Nat.pow_add]
      calc num < 2 ^ 53 * (den * 2 ^ s) := hhigh
        _ = 2 ^ 53 * 2 ^ s * den := by ring
  rw [roundToSignificand_eq, hsteps]

/-- A whole number less than a half away is the nearest. -/
theorem nearestWhole_eq_of_near {num den whole : Nat} (hlow : 2 * (whole * den) < 2 * num + den)
    (hhigh : 2 * num < 2 * (whole * den) + den) : nearestWhole num den = whole := by
  have hden : 0 < den := by omega
  obtain ⟨hbelow, habove, -⟩ := isNearest_nearestWhole num hden
  generalize nearestWhole num den = nearest at hbelow habove ⊢
  have hle : ∀ {a b : Nat}, a < b → a * den + den ≤ b * den := fun h => by
    rw [← Nat.succ_mul]
    exact Nat.mul_le_mul_right den h
  rcases Nat.lt_trichotomy nearest whole with hlt | heq | hgt
  · have := hle hlt
    omega
  · exact heq
  · have := hle hgt
    omega

theorem nearestWhole_mul_right (num : Nat) {den c : Nat} (hden : 0 < den) (hc : 0 < c) :
    nearestWhole (num * c) (den * c) = nearestWhole num den := by
  have hpos := Nat.mul_pos hden hc
  have heq : num * c * den = num * (den * c) := by ring
  exact Nat.le_antisymm (nearestWhole_mono hpos hden (Nat.le_of_eq heq))
    (nearestWhole_mono hden hpos (Nat.le_of_eq heq.symm))

/-- An even whole number is not rounded below from a half below it. -/
theorem even_le_nearestWhole_iff {num den whole : Nat} (hden : 0 < den) (heven : whole % 2 = 0) :
    whole ≤ nearestWhole num den ↔ 2 * (whole * den) ≤ 2 * num + den := by
  obtain ⟨hbelow, habove, hhalf⟩ := isNearest_nearestWhole num hden
  generalize nearestWhole num den = nearest at hbelow habove hhalf ⊢
  constructor
  · intro hle
    have := Nat.mul_le_mul_right den hle
    omega
  · intro hnear
    by_contra hlt
    have hstep : nearest * den + den ≤ whole * den := by
      rw [← Nat.succ_mul]
      exact Nat.mul_le_mul_right den (Nat.lt_of_not_le hlt)
    have hnext : nearest + 1 = whole := by
      refine Nat.le_antisymm (Nat.lt_of_not_le hlt) (Nat.le_of_mul_le_mul_right ?_ hden)
      rw [Nat.succ_mul]
      omega
    rw [← hnext, Nat.add_one_mul nearest den] at hnear
    have := hhalf (.inr (by omega))
    omega

theorem roundToSignificand_zero (den : Nat) : roundToSignificand 0 den = 0 := by
  simp [roundToSignificand_eq, nearestWhole]

/-- Rounding moves a number by at most half of a step. -/
theorem roundToSignificand_near (num : Nat) {den : Nat} (hden : 0 < den) :
    2 * (roundToSignificand num den * den) ≤ 2 * num + den * 2 ^ excessBits (num / den) ∧
      2 * num ≤ 2 * (roundToSignificand num den * den) + den * 2 ^ excessBits (num / den) := by
  rw [roundToSignificand_eq]
  generalize excessBits (num / den) = s
  obtain ⟨hbelow, habove, -⟩ :=
    isNearest_nearestWhole num (Nat.mul_pos hden (Nat.two_pow_pos s))
  have hassoc : nearestWhole num (den * 2 ^ s) * 2 ^ s * den =
      nearestWhole num (den * 2 ^ s) * (den * 2 ^ s) := by ring
  rw [hassoc]
  exact ⟨hbelow, habove⟩

theorem excessBits_le_of_lt {n k : Nat} (h : n < 2 ^ (52 + k)) : excessBits n ≤ k := by
  by_cases hzero : n = 0
  · rw [hzero]
    exact Nat.zero_le k
  · have hlog := (Nat.log2_lt hzero).2 h
    unfold excessBits
    omega

/-! ## Microseconds -/

/-- The microseconds of some seconds: those of the whole seconds, and those of the rest, which are
rounded once as a product and once to a whole number. -/
def microsOf (units : Nat) : Nat :=
  units / unitsPerOne * 1000000 +
    nearestWhole (roundToSignificand (units % unitsPerOne * 1000000) 1) unitsPerOne

/-- Whole seconds have whole microseconds. -/
theorem microsOf_whole (n : Nat) : microsOf (n * unitsPerOne) = n * 1000000 := by
  have hpos := unitsPerOne_pos
  have hnearest := nearestWhole_whole 0 hpos
  rw [Nat.zero_mul] at hnearest
  rw [microsOf, Nat.mul_div_cancel _ hpos, Nat.mul_mod_left, Nat.zero_mul, roundToSignificand_zero,
    hnearest, Nat.add_zero]

/-- Whole seconds are not passed. -/
theorem microsOf_le {units n : Nat} (h : units ≤ n * unitsPerOne) :
    microsOf units ≤ n * 1000000 := by
  by_cases hlt : units < n * unitsPerOne
  · have hwhole : units / unitsPerOne < n := (Nat.div_lt_iff_lt_mul unitsPerOne_pos).2 hlt
    have hmillion : roundToSignificand (1000000 * unitsPerOne) 1 = 1000000 * unitsPerOne :=
      roundToSignificand_of_fits (fits_whole (by decide))
    have hrest : roundToSignificand (units % unitsPerOne * 1000000) 1 ≤ 1000000 * unitsPerOne := by
      rw [← hmillion]
      refine roundToSignificand_mono Nat.one_pos Nat.one_pos (Nat.mul_le_mul_right 1 ?_)
      rw [Nat.mul_comm]
      exact Nat.mul_le_mul_left _ (Nat.le_of_lt (Nat.mod_lt units unitsPerOne_pos))
    have hnearest := nearestWhole_le unitsPerOne_pos hrest
    unfold microsOf
    omega
  · rw [Nat.le_antisymm h (Nat.not_lt.1 hlt)]
    exact Nat.le_of_eq (microsOf_whole n)

theorem exists_unitsPerOne_eq : ∃ bits, 100 ≤ bits ∧ unitsPerOne = 2 ^ bits := by
  refine ⟨1074, by decide, ?_⟩
  unfold unitsPerOne unitsOfTwo
  generalize 1074 = bits
  rw [Nat.pow_eq, Nat.zero_add]

/-- The microseconds are little more than half a microsecond away. -/
theorem microsOf_near (units : Nat) :
    100 * (microsOf units * unitsPerOne) ≤ 100 * (units * 1000000) + 51 * unitsPerOne ∧
      100 * (units * 1000000) ≤ 100 * (microsOf units * unitsPerOne) + 51 * unitsPerOne := by
  have hstep : 100 * 2 ^ excessBits (units % unitsPerOne * 1000000) ≤ unitsPerOne := by
    have hrest := Nat.mod_lt units unitsPerOne_pos
    obtain ⟨bits, hbits, hone⟩ := exists_unitsPerOne_eq
    rw [hone] at hrest ⊢
    clear hone
    generalize units % 2 ^ bits = rest at hrest ⊢
    have hexcess : excessBits (rest * 1000000) ≤ bits - 32 := by
      refine excessBits_le_of_lt ?_
      calc rest * 1000000 < 2 ^ bits * 2 ^ 20 :=
            Nat.mul_lt_mul_of_lt_of_le hrest (by decide) (by decide)
        _ = 2 ^ (52 + (bits - 32)) := by rw [← Nat.pow_add]; congr 1; omega
    calc 100 * 2 ^ excessBits (rest * 1000000)
        ≤ 2 ^ 7 * 2 ^ (bits - 32) :=
          Nat.mul_le_mul (by decide) (Nat.pow_le_pow_right (by decide) hexcess)
      _ = 2 ^ (7 + (bits - 32)) := (Nat.pow_add ..).symm
      _ ≤ 2 ^ bits := Nat.pow_le_pow_right (by decide) (by omega)
  have hround := roundToSignificand_near (units % unitsPerOne * 1000000) Nat.one_pos
  rw [Nat.div_one, Nat.one_mul, Nat.mul_one] at hround
  obtain ⟨hbelow, habove, -⟩ := isNearest_nearestWhole
    (roundToSignificand (units % unitsPerOne * 1000000) 1) unitsPerOne_pos
  have hsplit : units = units / unitsPerOne * unitsPerOne + units % unitsPerOne :=
    (Nat.div_add_mod' units unitsPerOne).symm
  have hmicros : microsOf units * unitsPerOne = 1000000 * (units / unitsPerOne * unitsPerOne) +
      nearestWhole (roundToSignificand (units % unitsPerOne * 1000000) 1) unitsPerOne *
        unitsPerOne := by
    rw [microsOf]
    ring
  rw [hmicros]
  generalize nearestWhole (roundToSignificand (units % unitsPerOne * 1000000) 1) unitsPerOne *
    unitsPerOne = nearest at hbelow habove ⊢
  generalize units / unitsPerOne * unitsPerOne = whole at hsplit ⊢
  generalize units % unitsPerOne = rest at hstep hround hsplit hbelow habove ⊢
  generalize unitsPerOne = one at hstep hbelow habove ⊢
  omega

/-! ## Seconds -/

/-- The seconds of so many milliseconds, in units. -/
def secondsOf (millis : Nat) : Nat := roundToSignificand (millis * unitsPerOne) 1000

/-- How seconds are rounded: to a number of steps that has 53 bits, by at most half a step. -/
structure InSteps (millis steps size : Nat) : Prop where
  eq : secondsOf millis = steps * size
  low : 2 ^ 52 ≤ steps
  high : steps ≤ 2 ^ 53
  below : 2 * (1000 * secondsOf millis) ≤ 2 * (millis * unitsPerOne) + 1000 * size
  above : 2 * (millis * unitsPerOne) ≤ 2 * (1000 * secondsOf millis) + 1000 * size

theorem exists_inSteps {millis : Nat} (hpos : 0 < millis) :
    ∃ steps s, InSteps millis steps (2 ^ s) ∧ 2 ^ 52 * (1000 * 2 ^ s) ≤ millis * unitsPerOne := by
  have hgreat : 2 ^ 53 ≤ millis * unitsPerOne / 1000 := by
    obtain ⟨bits, hbits, hone⟩ := exists_unitsPerOne_eq
    rw [hone, Nat.le_div_iff_mul_le (by decide)]
    calc 2 ^ 53 * 1000 ≤ 2 ^ 100 := by decide
      _ ≤ 2 ^ bits := Nat.pow_le_pow_right (by decide) hbits
      _ ≤ millis * 2 ^ bits := Nat.le_mul_of_pos_left _ hpos
  have hsteps : 0 < excessBits (millis * unitsPerOne / 1000) :=
    Nat.lt_of_lt_of_le (show 0 < excessBits (2 ^ 53) by decide) (excessBits_mono hgreat)
  have hlow := steps_le hsteps
  have hhigh := lt_steps (millis * unitsPerOne) (show 0 < 1000 by decide)
  obtain ⟨hbelow, habove⟩ :=
    roundToSignificand_near (millis * unitsPerOne) (show 0 < 1000 by decide)
  have heq := roundToSignificand_eq (millis * unitsPerOne) 1000
  generalize excessBits (millis * unitsPerOne / 1000) = s at hlow hhigh hbelow habove heq
  have hpos : 0 < 1000 * 2 ^ s := Nat.mul_pos (by decide) (Nat.two_pow_pos s)
  refine ⟨_, s, ⟨heq, le_nearestWhole hpos hlow, nearestWhole_le hpos hhigh.le, ?_, ?_⟩, hlow⟩
  · rw [Nat.mul_comm 1000 (secondsOf millis)]
    exact hbelow
  · rw [Nat.mul_comm 1000 (secondsOf millis)]
    exact habove

/-- The steps of seconds up to the year 9999 are small. -/
theorem size_le_unitsPerOne {millis s : Nat} (hrange : millis < 2 ^ 48)
    (h : 2 ^ 52 * (1000 * 2 ^ s) ≤ millis * unitsPerOne) : 2 ^ s * 2 ^ 13 ≤ unitsPerOne := by
  have hpos := unitsPerOne_pos
  refine Nat.le_of_mul_le_mul_left ?_ (show 0 < 2 ^ 39 * 1000 by decide)
  calc 2 ^ 39 * 1000 * (2 ^ s * 2 ^ 13) = 2 ^ 52 * (1000 * 2 ^ s) := by ring
    _ ≤ millis * unitsPerOne := h
    _ ≤ 2 ^ 48 * unitsPerOne := Nat.mul_le_mul_right _ hrange.le
    _ ≤ 2 ^ 39 * 1000 * unitsPerOne := Nat.mul_le_mul_right _ (by decide)

namespace InSteps

variable {millis steps size : Nat} (h : InSteps millis steps size)

include h

/-- How far the microseconds are from a thousand times the milliseconds. -/
theorem microsOf_within {k : Nat}
    (hk : 51 * unitsPerOne + 50000000 * size < 100 * (k * unitsPerOne)) :
    microsOf (secondsOf millis) < 1000 * millis + k ∧
      1000 * millis < microsOf (secondsOf millis) + k := by
  obtain ⟨hlow, hhigh⟩ := microsOf_near (secondsOf millis)
  have hbelow := h.below
  have habove := h.above
  have hlt : ∀ a b : Nat, a * unitsPerOne < b * unitsPerOne + k * unitsPerOne → a < b + k := by
    intro a b hlt
    rw [← Nat.add_mul] at hlt
    exact Nat.lt_of_mul_lt_mul_right hlt
  have hmillis : 1000 * millis * unitsPerOne = 1000 * (millis * unitsPerOne) := Nat.mul_assoc ..
  refine ⟨hlt _ _ ?_, hlt _ _ ?_⟩ <;> rw [hmillis] <;>
    generalize microsOf (secondsOf millis) * unitsPerOne = micros at hlow hhigh ⊢ <;>
    generalize secondsOf millis = seconds at hlow hhigh hbelow habove <;>
    generalize k * unitsPerOne = slack at hk ⊢ <;>
    generalize millis * unitsPerOne = whole at hbelow habove ⊢ <;>
    generalize unitsPerOne = one at hlow hhigh hk ⊢ <;>
    omega

/-- Up to the year 9999 they are within a hundred. -/
theorem microsOf_bounds (hsize : size * 2 ^ 13 ≤ unitsPerOne) :
    microsOf (secondsOf millis) < 1000 * millis + 100 ∧
      1000 * millis < microsOf (secondsOf millis) + 100 := by
  refine h.microsOf_within ?_
  have hpos := unitsPerOne_pos
  generalize unitsPerOne = one at hsize hpos ⊢
  omega

/-- If steps are small enough, they are exact. -/
theorem microsOf_eq (hsize : size * 2 ^ 20 ≤ unitsPerOne) :
    microsOf (secondsOf millis) = 1000 * millis := by
  have hwithin : 51 * unitsPerOne + 50000000 * size < 100 * (1 * unitsPerOne) := by
    have hpos := unitsPerOne_pos
    generalize unitsPerOne = one at hsize hpos ⊢
    omega
  obtain ⟨hlow, hhigh⟩ := h.microsOf_within hwithin
  omega

/-- Where steps are greater, and yet not whole seconds, the microseconds are rounded back to the
same number of steps. -/
theorem round_microsOf {s : Nat} (hs : size = 2 ^ s) (hsize : unitsPerOne ≤ size * 2 ^ 19)
    (hlow : 2 ^ 52 < steps) (hhigh : steps < 2 ^ 53) :
    roundToSignificand (microsOf (secondsOf millis) * unitsPerOne) 1000000 = steps * size := by
  obtain ⟨hbelow, habove⟩ := microsOf_near (secondsOf millis)
  rw [h.eq] at hbelow habove ⊢
  generalize microsOf (steps * size) * unitsPerOne = micros at hbelow habove ⊢
  generalize unitsPerOne = one at hbelow habove hsize
  have hfirst : (2 ^ 52 + 1) * size ≤ steps * size := Nat.mul_le_mul_right size hlow
  have hlast : steps * size + size ≤ 2 ^ 53 * size := by
    rw [← Nat.succ_mul]
    exact Nat.mul_le_mul_right size hhigh
  have hassoc : steps * (1000000 * size) = 1000000 * (steps * size) := by ring
  have hpos : 0 < size := by rw [hs]; exact Nat.two_pow_pos s
  have hnear : nearestWhole micros (1000000 * size) = steps := by
    refine nearestWhole_eq_of_near ?_ ?_ <;> rw [hassoc] <;> omega
  have hleast : 2 ^ 52 * (1000000 * size) ≤ micros := by omega
  have hgreatest : micros < 2 ^ 53 * (1000000 * size) := by omega
  rw [hs] at hleast hgreatest hnear ⊢
  rw [roundToSignificand_of_steps (by decide) hleast hgreatest, hnear]

end InSteps

theorem size_cases (s : Nat) :
    2 ^ s * 2 ^ 20 ≤ unitsPerOne ∨
      unitsPerOne ≤ 2 ^ s * 2 ^ 19 ∧ unitsPerOne ∣ 2 ^ 52 * 2 ^ s := by
  obtain ⟨bits, -, hone⟩ := exists_unitsPerOne_eq
  rw [hone, ← Nat.pow_add, ← Nat.pow_add, ← Nat.pow_add]
  rcases Nat.lt_or_ge bits (s + 20) with hlt | hle
  · exact .inr ⟨Nat.pow_le_pow_right (by decide) (by omega), Nat.pow_dvd_pow 2 (by omega)⟩
  · exact .inl (Nat.pow_le_pow_right (by decide) hle)

/-- **Seconds survive as microseconds**: rounded to microseconds and read as seconds again, they
are the same binary64 number. -/
theorem seconds_of_microsOf {millis : Nat} (hpos : 0 < millis) :
    roundToSignificand (microsOf (secondsOf millis) * unitsPerOne) 1000000 = secondsOf millis := by
  obtain ⟨steps, s, h, -⟩ := exists_inSteps hpos
  rcases size_cases s with hsmall | ⟨hgreat, hdvd⟩
  · rw [h.microsOf_eq hsmall, secondsOf]
    refine roundToSignificand_congr (by decide) (by decide) ?_
    ring
  · by_cases hwhole : unitsPerOne ∣ secondsOf millis
    · obtain ⟨n, hn⟩ := hwhole
      rw [Nat.mul_comm] at hn
      have hfits : FitsSignificand (secondsOf millis) := fits_roundToSignificand _ _
      calc roundToSignificand (microsOf (secondsOf millis) * unitsPerOne) 1000000
          = roundToSignificand (secondsOf millis) 1 := by
            refine roundToSignificand_congr (by decide) (by decide) ?_
            rw [hn, microsOf_whole]
            ring
        _ = secondsOf millis := roundToSignificand_of_fits hfits
    · have hlow : steps ≠ 2 ^ 52 := by
        rintro rfl
        exact hwhole (h.eq ▸ hdvd)
      have hhigh : steps ≠ 2 ^ 53 := by
        rintro rfl
        refine hwhole (h.eq ▸ Nat.dvd_trans hdvd ⟨2, by ring⟩)
      rw [h.round_microsOf rfl hgreat (Nat.lt_of_le_of_ne h.low (Ne.symm hlow))
        (Nat.lt_of_le_of_ne h.high hhigh), h.eq]

/-! ## Milliseconds again -/

/-- The milliseconds, shifted to 62 bits. -/
def aligned (millis : Nat) : Nat := millis * 2 ^ (61 - millis.log2)

/-- Milliseconds that are one less when they have been seconds: the seconds are rounded down, and a
thousand times what that takes away is more than half a step of the product. -/
def LosesOne (millis : Nat) : Prop :=
  125 * 2 ^ 55 ≤ aligned millis ∧ 256 < aligned millis % 1000 ∧ aligned millis % 1000 < 500

instance (millis : Nat) : Decidable (LosesOne millis) :=
  inferInstanceAs (Decidable (_ ∧ _ ∧ _))

/-- How many shifted milliseconds are one second's unit. -/
structure Shifted (millis grain k : Nat) : Prop where
  aligned_eq : aligned millis = millis * grain
  one_eq : unitsPerOne = grain * 2 ^ (k + 1)
  dvd : 2 ^ 14 ∣ grain
  low : 2 ^ 61 ≤ aligned millis
  high : aligned millis < 2 ^ 62

theorem exists_shifted {millis : Nat} (hpos : 0 < millis) (hrange : millis < 2 ^ 48) :
    ∃ grain k, Shifted millis grain k := by
  have hlog : millis.log2 < 48 := (Nat.log2_lt hpos.ne').2 hrange
  have hbits : 2 ^ millis.log2 * 2 ^ (61 - millis.log2) = 2 ^ 61 := by
    rw [← Nat.pow_add]
    congr 1
    omega
  obtain ⟨bits, hgreat, hone⟩ := exists_unitsPerOne_eq
  refine ⟨2 ^ (61 - millis.log2), bits + millis.log2 - 62, rfl, ?_, ?_, ?_, ?_⟩
  · rw [hone, ← Nat.pow_add]
    clear hone
    congr 1
    omega
  · clear hone
    exact Nat.pow_dvd_pow 2 (by omega)
  · calc 2 ^ 61 = 2 ^ millis.log2 * 2 ^ (61 - millis.log2) := hbits.symm
      _ ≤ millis * 2 ^ (61 - millis.log2) :=
          Nat.mul_le_mul_right _ (Nat.log2_self_le hpos.ne')
  · calc millis * 2 ^ (61 - millis.log2) < 2 ^ (millis.log2 + 1) * 2 ^ (61 - millis.log2) :=
          Nat.mul_lt_mul_of_pos_right Nat.lt_log2_self (Nat.two_pow_pos _)
      _ = 2 * (2 ^ millis.log2 * 2 ^ (61 - millis.log2)) := by rw [Nat.pow_succ']; ring
      _ = 2 ^ 62 := by rw [hbits, ← Nat.pow_succ']

/-- A thousand times the seconds, in units of shifted milliseconds. -/
structure Thousandfold (millis thousandfold k : Nat) : Prop where
  eq : 1000 * secondsOf millis = thousandfold * 2 ^ (k + 1)
  low : 2 ^ 61 ≤ thousandfold
  high : thousandfold < 2 ^ 62
  below : thousandfold ≤ aligned millis + 500
  above : aligned millis ≤ thousandfold + 500
  loses_iff : LosesOne millis ↔ thousandfold + 256 < aligned millis

namespace Shifted

variable {millis grain k : Nat} (h : Shifted millis grain k)

include h

theorem aligned_dvd : 2 ^ 14 ∣ aligned millis := h.aligned_eq ▸ Nat.dvd_mul_left_of_dvd h.dvd millis

theorem units_eq : millis * unitsPerOne = aligned millis * 2 ^ (k + 1) := by
  rw [h.aligned_eq, h.one_eq, Nat.mul_assoc]

/-- If there are no more steps than shifted milliseconds, seconds are rounded to a whole number of
these. -/
theorem thousandfold_of_great (hgreat : 125 * 2 ^ 55 ≤ aligned millis) :
    Thousandfold millis (1000 * nearestWhole (aligned millis) 1000) k := by
  have hpos : 0 < 2 ^ (k + 1) := Nat.two_pow_pos _
  have hseconds : secondsOf millis = nearestWhole (aligned millis) 1000 * 2 ^ (k + 1) := by
    have hlow : 2 ^ 52 * (1000 * 2 ^ (k + 1)) ≤ aligned millis * 2 ^ (k + 1) := by
      rw [← Nat.mul_assoc]
      exact Nat.mul_le_mul_right _ hgreat
    have hhigh : aligned millis * 2 ^ (k + 1) < 2 ^ 53 * (1000 * 2 ^ (k + 1)) := by
      rw [← Nat.mul_assoc]
      exact Nat.mul_lt_mul_of_pos_right (Nat.lt_trans h.high (by decide)) hpos
    rw [secondsOf, h.units_eq, roundToSignificand_of_steps (by decide) hlow hhigh,
      nearestWhole_mul_right _ (by decide) hpos]
  obtain ⟨a, ha⟩ := h.aligned_dvd
  have hhigh := h.high
  obtain ⟨hbelow, habove, -⟩ := isNearest_nearestWhole (aligned millis) (show 0 < 1000 by decide)
  refine ⟨by rw [hseconds, Nat.mul_assoc], by omega, by omega, by omega, by omega, ?_⟩
  unfold LosesOne nearestWhole
  split
  · omega
  · split <;> omega

/-- If there are more, they are rounded to half of one. -/
theorem thousandfold_of_less (hless : aligned millis < 125 * 2 ^ 55) :
    Thousandfold millis (500 * nearestWhole (2 * aligned millis) 1000) k := by
  have hpos : 0 < 2 ^ k := Nat.two_pow_pos _
  have hlow := h.low
  have hseconds : secondsOf millis = nearestWhole (2 * aligned millis) 1000 * 2 ^ k := by
    have hunits : millis * unitsPerOne = 2 * aligned millis * 2 ^ k := by
      rw [h.units_eq, Nat.pow_succ]
      ring
    have hleast : 2 ^ 52 * (1000 * 2 ^ k) ≤ 2 * aligned millis * 2 ^ k := by
      rw [← Nat.mul_assoc]
      exact Nat.mul_le_mul_right _ (by omega)
    have hgreatest : 2 * aligned millis * 2 ^ k < 2 ^ 53 * (1000 * 2 ^ k) := by
      rw [← Nat.mul_assoc]
      exact Nat.mul_lt_mul_of_pos_right (by omega) hpos
    rw [secondsOf, hunits, roundToSignificand_of_steps (by decide) hleast hgreatest,
      nearestWhole_mul_right _ (by decide) hpos]
  obtain ⟨hbelow, habove, -⟩ :=
    isNearest_nearestWhole (2 * aligned millis) (show 0 < 1000 by decide)
  -- a power of two is rounded up
  have hfirst : 4611686018427388 ≤ nearestWhole (2 * aligned millis) 1000 := by
    have hpower : nearestWhole (2 ^ 62) 1000 = 4611686018427388 := by decide
    rw [← hpower]
    exact nearestWhole_mono (by decide) (by decide) (by omega)
  refine ⟨?_, by omega, by omega, by omega, by omega, ?_⟩
  · rw [hseconds, Nat.pow_succ]
    ring
  · unfold LosesOne
    omega

theorem exists_thousandfold : ∃ thousandfold, Thousandfold millis thousandfold k := by
  rcases Nat.lt_or_ge (aligned millis) (125 * 2 ^ 55) with hless | hgreat
  · exact ⟨_, h.thousandfold_of_less hless⟩
  · exact ⟨_, h.thousandfold_of_great hgreat⟩

/-- A thousand times the seconds, rounded: a multiple of 512 shifted milliseconds. -/
theorem round_thousandfold {thousandfold : Nat} (hfold : Thousandfold millis thousandfold k) :
    roundToSignificand (1000 * secondsOf millis) 1 / unitsPerOne =
      nearestWhole thousandfold 512 * 512 / grain := by
  have hpos : 0 < 2 ^ (k + 1) := Nat.two_pow_pos _
  have hsize : 1 * 2 ^ (k + 10) = 512 * 2 ^ (k + 1) := by
    rw [show k + 10 = 9 + (k + 1) by omega, Nat.pow_add, Nat.one_mul]
  have hlow : 2 ^ 52 * (1 * 2 ^ (k + 10)) ≤ thousandfold * 2 ^ (k + 1) := by
    rw [hsize, ← Nat.mul_assoc]
    exact Nat.mul_le_mul_right _ hfold.low
  have hhigh : thousandfold * 2 ^ (k + 1) < 2 ^ 53 * (1 * 2 ^ (k + 10)) := by
    rw [hsize, ← Nat.mul_assoc]
    exact Nat.mul_lt_mul_of_pos_right hfold.high hpos
  have hround := roundToSignificand_of_steps Nat.one_pos hlow hhigh
  rw [hsize, nearestWhole_mul_right _ (by decide) hpos] at hround
  rw [hfold.eq, hround, h.one_eq, ← Nat.one_mul (2 ^ (k + 10)), hsize, ← Nat.mul_assoc,
    Nat.mul_div_mul_right _ _ hpos]

/-- **Milliseconds that have been seconds** are cut to a whole number, which is one less where
they were rounded down too far. -/
theorem millis_of_seconds (hpos : 0 < millis) :
    roundToSignificand (1000 * secondsOf millis) 1 / unitsPerOne =
      if LosesOne millis then millis - 1 else millis := by
  obtain ⟨thousandfold, hfold⟩ := h.exists_thousandfold
  rw [h.round_thousandfold hfold]
  have hiff := hfold.loses_iff
  have hnear := hfold.below
  have hnear' := hfold.above
  have heq := h.aligned_eq
  obtain ⟨c, hc⟩ := h.aligned_dvd
  have hgrain : 2 ^ 14 ≤ grain := by
    refine Nat.le_of_dvd (Nat.pos_of_ne_zero ?_) h.dvd
    rintro rfl
    have hlow := h.low
    omega
  obtain ⟨hbelow, habove, -⟩ := isNearest_nearestWhole thousandfold (show 0 < 512 by decide)
  have heven : 32 * c ≤ nearestWhole thousandfold 512 ↔ _ :=
    even_le_nearestWhole_iff (show 0 < 512 by decide) (by omega)
  generalize nearestWhole thousandfold 512 = nearest at hbelow habove heven ⊢
  have hlast : (millis - 1) * grain + grain = millis * grain := by
    rw [← Nat.succ_mul, Nat.succ_eq_add_one, Nat.sub_add_cancel hpos]
  split
  · next hloses =>
    have hfar := hiff.1 hloses
    refine Nat.div_eq_of_lt_le ?_ ?_
    · omega
    · rw [Nat.succ_mul, hlast]
      omega
  · next hkeeps =>
    have hclose := mt hiff.2 hkeeps
    refine Nat.div_eq_of_lt_le ?_ ?_
    · omega
    · rw [Nat.succ_mul]
      omega

end Shifted

/-- An instant of 2004 that loses one, and one of 2024 that does not. -/
example : LosesOne 1080000000001 ∧ ¬LosesOne 1709287200001 := by decide

end PipeQuery
