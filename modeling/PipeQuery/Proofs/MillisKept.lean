import PipeQuery.Dataset.Item
import PipeQuery.Source.Basic
import PipeQuery.Proofs.Calendar
import PipeQuery.Proofs.NumbersShown
import PipeQuery.Proofs.QuotedValues
import PipeQuery.Proofs.Ranks
import PipeQuery.Proofs.Thousandths

/-!
# Milliseconds of loaded records

An item says when it was in milliseconds: as a whole number, as a binary64 number or as a text.  All
three are divided by a thousand to seconds, which are rounded to a time in microseconds, and the
milliseconds of the record are that time in seconds, multiplied by a thousand and truncated.

* `Binary64.exists_mul_whole`, `Binary64.div_whole`: one rounding each.
* `InCalendar.ofSeconds_secondsOf`: the seconds of an instant in the calendar are a time.
* `Timestamp.millis_eq`, `Timestamp.millis_microsOf`: the milliseconds of a time, and of that one.
* `Datum.exists_time_of_isMillis`: all forms of a number of milliseconds are the same time.
* `Record.millis_ofDatum`: the milliseconds of a record that is loaded, and when they are not
  those of its item.
-/

namespace PipeQuery

/-! ## Seconds as numbers -/

theorem secondsOf_le {millis n : Nat} (h : millis ≤ 1000 * n) (hn : n ≤ 2 ^ 53) :
    secondsOf millis ≤ n * unitsPerOne := by
  rw [← roundToSignificand_of_fits (fits_whole hn)]
  refine roundToSignificand_mono (by decide) Nat.one_pos ?_
  rw [Nat.mul_one, Nat.mul_right_comm]
  exact Nat.mul_le_mul_right _ (h.trans_eq (Nat.mul_comm 1000 n))

theorem microsOf_secondsOf_zero : microsOf (secondsOf 0) = 0 := by
  have hmicros := microsOf_le (secondsOf_le (Nat.zero_le (1000 * 0)) (by decide))
  omega

/-- What a magnitude of the format leaves after whole ones has a significand, too. -/
theorem fits_mod_unitsPerOne {units : Nat} (h : FitsSignificand units) :
    FitsSignificand (units % unitsPerOne) := by
  obtain ⟨bits, -, hone⟩ := exists_unitsPerOne_eq
  rw [hone]
  obtain ⟨m, s, hm, rfl⟩ := h
  have hpow : Nat.pow 2 s = 2 ^ s := Nat.pow_eq
  rw [hpow]
  rcases Nat.lt_or_ge s bits with hlt | hle
  · have hsplit : 2 ^ bits = 2 ^ (bits - s) * 2 ^ s := by
      rw [← Nat.pow_add, Nat.sub_add_cancel hlt.le]
    refine ⟨m % 2 ^ (bits - s), s, (Nat.mod_le _ _).trans hm, ?_⟩
    rw [hsplit, Nat.mul_mod_mul_right, hpow]
  · refine ⟨0, 0, Nat.zero_le _, ?_⟩
    rw [Nat.zero_mul, Nat.mod_eq_zero_of_dvd]
    exact Nat.dvd_mul_left_of_dvd (Nat.pow_dvd_pow 2 hle) m

namespace Binary64

/-- A fraction that is at most a whole number of the format is finite. -/
theorem exists_ofFraction {num den n : Nat} (hden : 0 < den) (hn : n ≤ 2 ^ 53)
    (h : num ≤ n * unitsPerOne * den) (negative : Bool) :
    ∃ fits bounded, ofFraction negative num den =
      finite negative (roundToSignificand num den) fits bounded := by
  have hround : roundToSignificand num den ≤ n * unitsPerOne := by
    rw [← roundToSignificand_of_fits (fits_whole hn)]
    exact roundToSignificand_mono hden Nat.one_pos (by rwa [Nat.mul_one])
  have hbounded := Nat.lt_of_le_of_lt hround (whole_lt_overflow hn)
  obtain ⟨fits, heq⟩ := ofFraction_of_lt negative rfl hbounded
  exact ⟨fits, hbounded, heq⟩

section Finite

variable {negative : Bool} {units : Nat} {fits : FitsSignificand units}
  {bounded : units < overflowUnits}

/-- The product with a whole number, rounded once. -/
theorem exists_mul_whole {n k : Nat} (hn : n ≤ 2 ^ 53) (hk : n * k ≤ 2 ^ 53)
    (h : units ≤ k * unitsPerOne) :
    ∃ fits' bounded', finite negative units fits bounded * ofInt n =
      finite negative (roundToSignificand (units * n) 1) fits' bounded' := by
  have hround : roundToSignificand (units * (n * unitsPerOne)) unitsPerOne =
      roundToSignificand (units * n) 1 :=
    roundToSignificand_congr unitsPerOne_pos Nat.one_pos (by ring)
  have hle : units * n ≤ n * k * unitsPerOne * 1 := by
    rw [Nat.mul_one, Nat.mul_comm units, Nat.mul_assoc]
    exact Nat.mul_le_mul_left n h
  obtain ⟨fits', bounded', heq⟩ := exists_ofFraction Nat.one_pos hk hle negative
  refine ⟨fits', bounded', ?_⟩
  rw [ofInt_of_le hn, ← heq, ← ofFraction_of_round hround]
  exact mul_finite.trans (by rw [Bool.bne_false])

theorem div_finite {divisorNegative : Bool} {divisor : Nat} {fits' : FitsSignificand divisor}
    {bounded' : divisor < overflowUnits} (hne : divisor ≠ 0) :
    div (finite negative units fits bounded) (finite divisorNegative divisor fits' bounded') =
      ofFraction (negative != divisorNegative) (units * unitsPerOne) divisor := by
  rw [div, if_neg hne]

/-- The quotient by a whole number, rounded once. -/
theorem div_whole {n : Nat} (hn : n ≤ 2 ^ 53) (hpos : 0 < n) :
    finite negative units fits bounded / ofInt n = ofFraction negative units n := by
  have hden : n * unitsPerOne ≠ 0 := (Nat.mul_pos hpos unitsPerOne_pos).ne'
  have hround : roundToSignificand (units * unitsPerOne) (n * unitsPerOne) =
      roundToSignificand units n :=
    roundToSignificand_congr (Nat.pos_of_ne_zero hden) hpos (by ring)
  rw [ofInt_of_le hn, ← ofFraction_of_round hround]
  exact (div_finite hden).trans (by rw [Bool.bne_false])

theorem fractionalPart_finite : fractionalPart (finite negative units fits bounded) =
    finite negative (units % unitsPerOne) (fits_mod_unitsPerOne fits)
      (Nat.lt_of_le_of_lt (Nat.mod_le _ _) bounded) := by
  have hround := roundToSignificand_of_fits (fits_mod_unitsPerOne fits)
  obtain ⟨_, heq⟩ := ofFraction_of_lt negative hround (Nat.lt_of_le_of_lt (Nat.mod_le _ _) bounded)
  exact heq

theorem isFinite_finite : (finite negative units fits bounded).isFinite = true := rfl

theorem truncate?_finite : (finite negative units fits bounded).truncate? =
    some (signedUnits negative (units / unitsPerOne)) := rfl

/-- The microseconds after the whole seconds. -/
theorem micros_of_fraction :
    ((fractionalPart (finite negative units fits bounded) * ofInt 1000000).roundEven?).getD 0 =
      signedUnits negative
        (nearestWhole (roundToSignificand (units % unitsPerOne * 1000000) 1) unitsPerOne) := by
  have hrest : units % unitsPerOne ≤ 1 * unitsPerOne := by
    rw [Nat.one_mul]
    exact Nat.le_of_lt (Nat.mod_lt units unitsPerOne_pos)
  obtain ⟨fits', bounded', hmul⟩ := exists_mul_whole (n := 1000000) (by decide) (by decide) hrest
  rw [fractionalPart_finite]
  exact congrArg (fun x => (roundEven? x).getD 0) hmul

end Finite

end Binary64

namespace Timestamp

/-- Seconds with a fraction are a time in UTC if that lies in a year that dates have. -/
theorem ofSeconds_finite {negative : Bool} {units : Nat} {fits : FitsSignificand units}
    {bounded : units < overflowUnits} (hyear : Date.yearInRange (Date.ofDayNumber
      (Binary64.signedUnits negative (microsOf units) / microsPerDay)).year = true) :
    ofSeconds (.finite negative units fits bounded) =
      .ok ⟨Binary64.signedUnits negative (microsOf units), 0⟩ := by
  have hwall : Binary64.signedUnits negative (units / unitsPerOne) * microsPerSecond +
      Binary64.signedUnits negative
        (nearestWhole (roundToSignificand (units % unitsPerOne * 1000000) 1) unitsPerOne) =
      Binary64.signedUnits negative (microsOf units) := by
    unfold microsOf Binary64.signedUnits microsPerSecond
    generalize nearestWhole _ unitsPerOne = micros
    generalize units / unitsPerOne = seconds
    cases negative with
    | false => simp
    | true =>
        simp
        ring
  have hseconds : units / unitsPerOne * 1000000 ≤ microsOf units := Nat.le_add_right _ _
  rw [ofSeconds, Binary64.truncate?_finite, Binary64.micros_of_fraction, Option.getD_some]
  dsimp only
  rw [hwall]
  have hdays := Date.bounds_of_yearInRange hyear
  have hyears := Date.yearInRange_iff.1 hyear
  have hclock : ¬(Binary64.signedUnits negative (units / unitsPerOne) < -clockLimit ∨
      clockLimit ≤ Binary64.signedUnits negative (units / unitsPerOne)) := by
    unfold microsPerDay microsPerSecond at hdays
    unfold clockLimit
    generalize microsOf units = micros at hseconds hdays
    generalize units / unitsPerOne = seconds at hseconds ⊢
    unfold Binary64.signedUnits at hdays ⊢
    cases negative <;> simp only [Bool.false_eq_true, if_true, if_false] at hdays ⊢ <;> omega
  rw [if_neg hclock, if_neg (by unfold calendarLimit; omega), if_pos hyear]

/-- The days of instants between these bounds lie in the years that dates have. -/
theorem yearInRange_of_bounds {wall : Int} (hlow : -62135596800000000 ≤ wall)
    (hhigh : wall < 253402300800000000) :
    Date.yearInRange (Date.ofDayNumber (wall / microsPerDay)).year = true := by
  obtain ⟨hfirst, hlast⟩ := Date.year_ofDayNumber_iff (wall / microsPerDay)
  rw [Date.yearInRange_iff, hfirst, hlast]
  unfold microsPerDay microsPerSecond
  omega

end Timestamp

/-- The years 1 to 9999, in milliseconds of UTC. -/
structure InCalendar (millis : Int) : Prop where
  low : -62135596800000 ≤ millis
  high : millis ≤ 253402300799999

namespace InCalendar

variable {negative : Bool} {millis : Nat} (h : InCalendar (Binary64.signedUnits negative millis))

include h

theorem lt_pow : millis < 2 ^ 48 := by
  have hlow := h.low
  have hhigh := h.high
  unfold Binary64.signedUnits at hlow hhigh
  cases negative <;> simp only [Bool.false_eq_true, if_true, if_false] at hlow hhigh <;> omega

/-- The microseconds lie in the calendar, too. -/
theorem microsOf_bounds :
    -62135596800000000 ≤ Binary64.signedUnits negative (microsOf (secondsOf millis)) ∧
      Binary64.signedUnits negative (microsOf (secondsOf millis)) < 253402300800000000 := by
  have hlow := h.low
  have hhigh := h.high
  unfold Binary64.signedUnits at hlow hhigh ⊢
  cases negative with
  | true =>
      -- the first instant is a whole second, which no rounding passes
      simp only [if_true] at hlow hhigh ⊢
      have hseconds : secondsOf millis ≤ 62135596800 * unitsPerOne :=
        secondsOf_le (by omega) (by decide)
      have hmicros := microsOf_le hseconds
      omega
  | false =>
      simp only [Bool.false_eq_true, if_false] at hlow hhigh ⊢
      rcases Nat.eq_zero_or_pos millis with rfl | hpos
      · rw [microsOf_secondsOf_zero]
        decide
      · obtain ⟨steps, s, hsteps, hsize⟩ := exists_inSteps hpos
        have hbounds := hsteps.microsOf_bounds (size_le_unitsPerOne h.lt_pow hsize)
        omega

theorem ofSeconds_secondsOf {fits : FitsSignificand (secondsOf millis)}
    {bounded : secondsOf millis < overflowUnits} :
    Timestamp.ofSeconds (.finite negative (secondsOf millis) fits bounded) =
      .ok ⟨Binary64.signedUnits negative (microsOf (secondsOf millis)), 0⟩ :=
  have ⟨hlow, hhigh⟩ := h.microsOf_bounds
  Timestamp.ofSeconds_finite (Timestamp.yearInRange_of_bounds hlow hhigh)

end InCalendar

/-! ## The way back -/

/-- What so many milliseconds are when they have been seconds and microseconds. -/
def keptMillis (millis : Nat) : Nat := if LosesOne millis then millis - 1 else millis

/-- The milliseconds of so many microseconds: seconds, rounded, times a thousand, rounded again and
cut to a whole number. -/
def millisOfMicros (micros : Nat) : Nat :=
  roundToSignificand (roundToSignificand (micros * unitsPerOne) 1000000 * 1000) 1 / unitsPerOne

namespace Timestamp

/-- The milliseconds of all but the farthest instants are a number that is cut, with the sign of
the instant. -/
theorem truncate?_seconds {t : Timestamp} (h : t.instant.natAbs ≤ 2 ^ 43 * 1000000) :
    (Binary64.ofRatio t.instant 1000000 * Binary64.ofInt 1000).truncate? =
      some (Binary64.signedUnits (decide (t.instant < 0)) (millisOfMicros t.instant.natAbs)) := by
  have hunits : t.instant.natAbs * unitsPerOne ≤ 2 ^ 43 * unitsPerOne * 1000000 := by
    rw [Nat.mul_right_comm]
    exact Nat.mul_le_mul_right _ h
  have hseconds : roundToSignificand (t.instant.natAbs * unitsPerOne) 1000000 ≤
      2 ^ 43 * unitsPerOne := by
    rw [← roundToSignificand_of_fits (fits_whole (n := 2 ^ 43) (by decide))]
    exact roundToSignificand_mono (by decide) Nat.one_pos (by rwa [Nat.mul_one])
  obtain ⟨_, _, hratio⟩ := Binary64.exists_ofFraction (n := 2 ^ 43) (by decide) (by decide) hunits
    (decide (t.instant < 0))
  obtain ⟨_, _, hmul⟩ :=
    Binary64.exists_mul_whole (n := 1000) (k := 2 ^ 43) (by decide) (by decide) hseconds
  rw [Binary64.ofRatio, hratio]
  exact (congrArg Binary64.truncate? hmul).trans Binary64.truncate?_finite

theorem millis_eq {t : Timestamp} (h : t.instant.natAbs ≤ 2 ^ 43 * 1000000) :
    t.millis =
      Binary64.signedUnits (decide (t.instant < 0)) (millisOfMicros t.instant.natAbs) := by
  rw [millis, truncate?_seconds h, Option.getD_some]

/-- **The milliseconds of a time** that was made of milliseconds. -/
theorem millis_microsOf {negative : Bool} {millis : Nat} (hrange : millis < 2 ^ 48) :
    Timestamp.millis ⟨Binary64.signedUnits negative (microsOf (secondsOf millis)), 0⟩ =
      Binary64.signedUnits negative (keptMillis millis) := by
  rcases Nat.eq_zero_or_pos millis with rfl | hpos
  · rw [microsOf_secondsOf_zero]
    cases negative <;> decide +kernel
  · obtain ⟨steps, s, hsteps, hsize⟩ := exists_inSteps hpos
    obtain ⟨hbelow, habove⟩ := hsteps.microsOf_bounds (size_le_unitsPerOne hrange hsize)
    obtain ⟨grain, k, hshifted⟩ := exists_shifted hpos hrange
    have hsign : decide (Binary64.signedUnits negative (microsOf (secondsOf millis)) < 0) =
        negative := Binary64.decide_signedUnits_neg fun hzero => by omega
    have hinstant : (instant ⟨Binary64.signedUnits negative (microsOf (secondsOf millis)), 0⟩) =
        Binary64.signedUnits negative (microsOf (secondsOf millis)) := Int.sub_zero _
    have hbound : (Binary64.signedUnits negative (microsOf (secondsOf millis))).natAbs ≤
        2 ^ 43 * 1000000 := by
      rw [Binary64.natAbs_signedUnits]
      omega
    rw [millis_eq (by rwa [hinstant]), hinstant, hsign, Binary64.natAbs_signedUnits, millisOfMicros,
      seconds_of_microsOf hpos, Nat.mul_comm (secondsOf millis),
      hshifted.millis_of_seconds hpos, keptMillis]

end Timestamp

/-! ## Whole numbers as texts -/

theorem IsPlainChar.isBlank_eq_false {c : Char} (h : IsPlainChar c) : Text.isBlank c = false := by
  have houtside : ∀ range ∈ Text.blankRanges, range.2 ≤ 0x20 ∨ 0x7f ≤ range.1 := by decide
  have hlow := h.low
  have hhigh := h.high
  refine List.any_eq_false.2 fun range hrange => ?_
  have := houtside range hrange
  simp only [Bool.and_eq_true, decide_eq_true_eq]
  omega

theorem isAnyDigit_of_isDigit {c : Char} (h : c.isDigit = true) : Text.isAnyDigit c = true := by
  have hrange := toNat_of_isDigit h
  have hvalue : Text.decimalValue? c = some (c.toNat - 0x30) := by
    rw [Text.decimalValue?, if_pos (by omega), if_pos h]
  rw [Text.isAnyDigit, Text.isDecimal, hvalue, Option.isSome_some, Bool.true_or]

theorem Binary64.withSign_ne_nil (negative : Bool) (first : Char) (rest : List Char) :
    (withSign negative (first :: rest)).toList ≠ [] := by
  rw [withSign, String.toList_ofList]
  split <;> exact List.cons_ne_nil _ _

section Shown

variable {first : Char} {rest : List Char} (h : ∀ c ∈ first :: rest, c.isDigit = true)

include h

/-- Digits with a sign are a whole number. -/
theorem readInteger_withSign (hfew : (first :: rest).length ≤ maxIntegerDigits) (negative : Bool) :
    readInteger (Binary64.withSign negative (first :: rest)).toList =
      .ok (if negative then -(numberOf (first :: rest) : ℤ) else numberOf (first :: rest)) := by
  have hplain : ∀ c ∈ first :: rest, IsPlainChar c := fun c hc => isPlainChar_of_isDigit (h c hc)
  have hall : (first :: rest).all Char.isDigit = true := List.all_eq_true.2 h
  rw [readInteger, plainText_of_plainChars (isPlainChar_of_mem_withSign hplain negative),
    splitSign_withSign (h first (List.mem_cons_self ..))]
  simp only [withoutLowLines?_of_plainChars hplain, List.isEmpty_cons, hall, Bool.not_true,
    Bool.or_self, Bool.false_eq_true, if_false, if_neg (Nat.not_lt.2 hfew), numberOf]

/-- They are a text of milliseconds. -/
theorem textTime_withSign (negative : Bool) {n : ℤ}
    (hread : readInteger (Binary64.withSign negative (first :: rest)).toList = .ok n) :
    Datum.textTime (Binary64.withSign negative (first :: rest)) =
      Datum.utcTime (Timestamp.ofMillis n) := by
  have hplain : ∀ c ∈ first :: rest, IsPlainChar c := fun c hc => isPlainChar_of_isDigit (h c hc)
  have htrim : Text.trimChars (Binary64.withSign negative (first :: rest)).toList =
      (Binary64.withSign negative (first :: rest)).toList := by
    exact trimChars_of_not_blank (Binary64.withSign_ne_nil negative first rest) fun c hc =>
      (isPlainChar_of_mem_withSign hplain negative c hc).isBlank_eq_false
  have hminus : first ≠ '-' := by
    rintro rfl
    exact absurd (h '-' (List.mem_cons_self ..)) (by decide)
  have hunsigned : (Binary64.withSign negative (first :: rest)).toList.dropWhile (· == '-') =
      first :: rest := by
    rw [Binary64.withSign, String.toList_ofList]
    cases negative <;> simp [hminus]
  have hdigits : (first :: rest).all Text.isAnyDigit = true :=
    List.all_eq_true.2 fun c hc => isAnyDigit_of_isDigit (h c hc)
  unfold Datum.textTime
  simp only [htrim, hunsigned, hdigits, List.isEmpty_cons, Bool.not_false, Bool.and_self, if_true,
    hread]

end Shown

/-! ## Milliseconds in data -/

namespace Datum

/-- The value stands for so many milliseconds: it is that whole number, in either form of numbers,
or its decimal text. -/
inductive IsMillis (millis : Int) : Datum → Prop
  | integer : IsMillis millis (number (.integer millis))
  | binary {x : Binary64} (whole : x.orderToInt? millis = some .eq) :
      IsMillis millis (number (.binary x))
  | text : IsMillis millis (text (shownInt millis))

/-- The time in UTC that so many milliseconds are loaded as. -/
def loadedTime (negative : Bool) (millis : Nat) : ClockTime :=
  (Binary64.signedUnits negative (microsOf (secondsOf millis)), some 0)

section Time

variable {millis : Int} (h : InCalendar millis)

include h

theorem natAbs_lt : millis.natAbs < 2 ^ 48 := by
  have hlow := h.low
  have hhigh := h.high
  omega

/-- The thousandth of milliseconds, in units, is finite. -/
theorem exists_thousandth (negative : Bool) : ∃ fits bounded,
    Binary64.ofFraction negative (millis.natAbs * unitsPerOne) 1000 =
      .finite negative (secondsOf millis.natAbs) fits bounded := by
  have hrange := natAbs_lt h
  refine Binary64.exists_ofFraction (n := millis.natAbs) (by decide) (by omega) ?_ negative
  exact Nat.le_mul_of_pos_right _ (by decide)

/-- It is seconds, and these are a time. -/
theorem utcTime_thousandth {negative : Bool}
    (hsign : Binary64.signedUnits negative millis.natAbs = millis) :
    utcTime (Timestamp.ofSeconds (.ofFraction negative (millis.natAbs * unitsPerOne) 1000)) =
      .ok (some (loadedTime negative millis.natAbs)) := by
  have hcalendar : InCalendar (Binary64.signedUnits negative millis.natAbs) := hsign.symm ▸ h
  obtain ⟨_, _, hseconds⟩ := exists_thousandth h negative
  rw [hseconds]
  exact congrArg utcTime hcalendar.ofSeconds_secondsOf

/-- A whole number. -/
theorem utcTime_ofMillis : utcTime (Timestamp.ofMillis millis) =
    .ok (some (loadedTime (decide (millis < 0)) millis.natAbs)) := by
  obtain ⟨_, _, hseconds⟩ := exists_thousandth h (decide (millis < 0))
  rw [Timestamp.ofMillis, Binary64.ofRatio,
    if_pos ((congrArg Binary64.isFinite hseconds).trans Binary64.isFinite_finite)]
  exact utcTime_thousandth h (Binary64.signedUnits_natAbs millis)

/-- A binary64 number that is whole. -/
theorem exists_time_binary {x : Binary64} (hx : x.orderToInt? millis = some .eq) :
    ∃ negative, Binary64.signedUnits negative millis.natAbs = millis ∧
      (number (.binary x)).time = .ok (some (loadedTime negative millis.natAbs)) := by
  cases x with
  | nan => cases hx
  | infinite negative => cases negative <;> cases hx
  | finite negative units fits bounded =>
      have hunits : Binary64.signedUnits negative units = millis * unitsPerOne :=
        Int.compare_eq_eq.1 (Option.some.inj hx)
      have habs : units = millis.natAbs * unitsPerOne := by
        rw [← Binary64.natAbs_signedUnits negative units, hunits, Int.natAbs_mul,
          Int.natAbs_natCast]
      have hsign : Binary64.signedUnits negative millis.natAbs = millis := by
        refine Int.eq_of_mul_eq_mul_right (Int.natCast_ne_zero.2 unitsPerOne_pos.ne') ?_
        rw [← hunits, habs]
        generalize unitsPerOne = one
        cases negative <;> simp [Binary64.signedUnits]
      have hdiv : Binary64.finite negative units fits bounded / .ofInt 1000 =
          Binary64.ofFraction negative units 1000 :=
        Binary64.div_whole (n := 1000) (by decide) (by decide)
      refine ⟨negative, hsign, ?_⟩
      rw [time, hdiv, habs]
      exact utcTime_thousandth h hsign

/-- The decimal text of a whole number. -/
theorem time_shownInt : (text (shownInt millis)).time =
    .ok (some (loadedTime (decide (millis < 0)) millis.natAbs)) := by
  have hrange := natAbs_lt h
  obtain ⟨first, rest, hfirst⟩ := List.exists_cons_of_ne_nil
    (Nat.toDigits_ne_nil (b := 10) (n := millis.natAbs))
  have hdigits : ∀ c ∈ first :: rest, c.isDigit = true := by
    rw [← hfirst]
    exact fun c hc => isDigit_of_mem_toDigits hc
  have hfew : (first :: rest).length ≤ maxIntegerDigits := by
    rw [← hfirst]
    refine Nat.le_trans ((decimalLength_le_iff (k := 15) (by decide)).2 ?_) (by decide)
    exact Nat.lt_trans hrange (by decide)
  have hread := readInteger_withSign hdigits hfew (decide (millis < 0))
  have hvalue : (if decide (millis < 0) = true then -(numberOf (first :: rest) : ℤ)
      else numberOf (first :: rest)) = millis := by
    rw [← hfirst, numberOf_toDigits]
    exact Binary64.signedUnits_natAbs millis
  rw [hvalue] at hread
  have hfilled : (Binary64.withSign (decide (millis < 0)) (first :: rest)).isEmpty = false :=
    Bool.eq_false_iff.2 fun hempty => Binary64.withSign_ne_nil _ first rest
      (String.toList_eq_nil_iff.2 (String.isEmpty_iff.1 hempty))
  rw [Binary64.shownInt_eq_withSign, hfirst, time, hfilled, if_neg Bool.false_ne_true]
  exact (textTime_withSign hdigits _ hread).trans (utcTime_ofMillis h)

/-- **Milliseconds are loaded** in every form. -/
theorem exists_time_of_isMillis {d : Datum} (hd : d.IsMillis millis) :
    ∃ negative, Binary64.signedUnits negative millis.natAbs = millis ∧
      d.time = .ok (some (loadedTime negative millis.natAbs)) := by
  have hsign := Binary64.signedUnits_natAbs millis
  cases hd with
  | integer =>
      refine ⟨_, hsign, ?_⟩
      rw [time]
      exact utcTime_ofMillis h
  | binary hx => exact exists_time_binary h hx
  | text => exact ⟨_, hsign, time_shownInt h⟩

end Time

/-- What is removed is not what is asked for. -/
theorem get?_without {key removed : String} (h : removed ≠ key) (entries : List (Datum × Datum)) :
    get? key (without removed entries) = get? key entries := by
  rw [get?, get?, without, List.find?_filter]
  congr 2
  funext e
  rcases hkey : e.1.text? == some key with _ | _
  · simp
  · simp [eq_of_beq hkey, h.symm]

end Datum

/-! ## Whole milliseconds with a sign -/

theorem not_losesOne_zero : ¬LosesOne 0 := by
  rintro ⟨hgreat, -⟩
  rw [aligned, Nat.zero_mul] at hgreat
  exact absurd hgreat (by decide)

/-- Whole seconds are kept. -/
theorem not_losesOne_of_dvd {millis : Nat} (h : 1000 ∣ millis) : ¬LosesOne millis := by
  rintro ⟨-, hmore, -⟩
  have hrest : aligned millis % 1000 = 0 :=
    Nat.mod_eq_zero_of_dvd (Nat.dvd_mul_right_of_dvd h _)
  omega

/-- What is lost is lost towards zero. -/
theorem signedUnits_keptMillis {negative : Bool} {millis : Int}
    (hsign : Binary64.signedUnits negative millis.natAbs = millis) :
    Binary64.signedUnits negative (keptMillis millis.natAbs) =
      if LosesOne millis.natAbs then millis - millis.sign else millis := by
  unfold keptMillis
  split
  · next hloses =>
    have hpos : 0 < millis.natAbs := by
      refine Nat.pos_of_ne_zero fun hzero => not_losesOne_zero ?_
      rwa [hzero] at hloses
    cases negative with
    | false =>
        have hsign : (millis.natAbs : Int) = millis := hsign
        change ((millis.natAbs - 1 : Nat) : Int) = millis - millis.sign
        rw [Int.sign_eq_one_of_pos (by omega)]
        omega
    | true =>
        have hsign : -(millis.natAbs : Int) = millis := hsign
        change -((millis.natAbs - 1 : Nat) : Int) = millis - millis.sign
        rw [Int.sign_eq_neg_one_of_neg (by omega)]
        omega
  · exact hsign

/-- The range from an instant to itself holds no other. -/
theorem TimeRange.holds_instant_iff {n millis : Int} :
    (TimeRange.mk (some n) (some n)).holds (some millis) = true ↔ millis = n := by
  simp only [holds, Option.all_some, Bool.and_eq_true, decide_eq_true_eq]
  omega

/-! ## Records -/

namespace Record

/-- The time under the key of times is the record's, whichever key holds the text. -/
theorem ofDatum_of_time {item d : Datum} {entries : List (Datum × Datum)} {time : Option ClockTime}
    (hitem : item.toEntries = .ok entries) (hd : Datum.get? timestampKey entries = some d)
    (htime : d.time = .ok time) (source : String) :
    ∃ r, ofDatum item source = .ok r ∧ r.timestamp = time.map ClockTime.toTimestamp := by
  have hkeys : ∀ key ∈ textKeys, key ≠ timestampKey := by decide
  have hkept : Datum.get? timestampKey
      (((textKey? entries).map (Datum.without · entries)).getD entries) = some d := by
    rcases hkey : textKey? entries with _ | key
    · exact hd
    · rw [← hd]
      exact Datum.get?_without (hkeys key (List.mem_of_find?_eq_some hkey)) entries
  simp only [ofDatum, hitem, hkept, htime, bind, Except.bind, Option.getD_some]
  exact ⟨_, rfl, rfl⟩

/-- **Milliseconds of a loaded record** are those of its item, in whatever form the item has them,
or one nearer to zero: this is so exactly for those that lose one, which the range of that instant
then leaves out.  Whole seconds lose none. -/
theorem millis_ofDatum {n : Int} (hn : InCalendar n) {item d : Datum}
    {entries : List (Datum × Datum)} (hitem : item.toEntries = .ok entries)
    (hd : Datum.get? timestampKey entries = some d) (hmillis : d.IsMillis n) (source : String) :
    ∃ r, ofDatum item source = .ok r ∧
      r.millis? = some (if LosesOne n.natAbs then n - n.sign else n) ∧
      ((TimeRange.mk (some n) (some n)).holds r.millis? = true ↔ ¬LosesOne n.natAbs) ∧
      (1000 ∣ n → r.millis? = some n) := by
  obtain ⟨negative, hsign, htime⟩ := Datum.exists_time_of_isMillis hn hmillis
  obtain ⟨r, hr, hstamp⟩ := ofDatum_of_time hitem hd htime source
  have hkept : r.millis? = some (if LosesOne n.natAbs then n - n.sign else n) := by
    rw [millis?, hstamp, ← signedUnits_keptMillis hsign]
    exact congrArg some (Timestamp.millis_microsOf (Datum.natAbs_lt hn))
  refine ⟨r, hr, hkept, ?_, fun hdvd => ?_⟩
  · rw [hkept, TimeRange.holds_instant_iff]
    split
    · next hloses =>
      have hne : n ≠ 0 := by
        rintro rfl
        exact not_losesOne_zero hloses
      have hsign := mt Int.sign_eq_zero_iff_zero.1 hne
      exact iff_of_false (by omega) (not_not_intro hloses)
    · next hkeeps => exact iff_of_true rfl hkeeps
  · rw [hkept, if_neg (not_losesOne_of_dvd (Int.natAbs_dvd_natAbs.2 hdvd))]

/-- A little more than a second, which is loaded as a second. -/
theorem millis_ofDatum_of_1001 : ∃ r, ofDatum (.mapping [(.text "timestamp", .integer 1001),
      (.text "message", .text "x")]) "src" = .ok r ∧ r.millis? = some 1000 ∧
    (TimeRange.mk (some 1001) (some 1001)).holds r.millis? = false := by
  have hitem : (Datum.mapping [(.text "timestamp", .integer 1001),
      (.text "message", .text "x")]).toEntries = .ok _ := rfl
  have hloses : LosesOne (1001 : Int).natAbs := by decide
  obtain ⟨r, hr, hkept, hrange, -⟩ :=
    millis_ofDatum (n := 1001) ⟨by decide, by decide⟩ hitem rfl .integer "src"
  rw [if_pos hloses] at hkept
  exact ⟨r, hr, hkept, Bool.eq_false_iff.2 fun hholds => hrange.1 hholds hloses⟩

end Record

end PipeQuery
