import PipeQuery.Proofs.Building
import PipeQuery.Proofs.Rounding
import PipeQuery.Proofs.TimeSpans

/-!
# Which spans have labels

The label of a span is the time on the clock at its start, and a clock shows
the years 1 to 9999 only.  A start is a whole number of seconds; as a binary64
number it is exact in all those years, and it is rounded to a whole number of
seconds beyond them (`Binary64.ofRatio_seconds`).  So in UTC

* `TimeChartStage.label_utc_iff`: a start has a label if and only if it lies in
  the years 1 to 9999;
* `TimeChartStage.bucket_utc_error_iff`: a chart fails if and only if one of its
  spans starts outside them.
-/

namespace PipeQuery

/-! ## Years -/

namespace Date

/-- The year of a day is one of the years of its cycle. -/
theorem year_ofDayNumber (n : Int) :
    (n + epochOffset) / 146097 * 400 ≤ (ofDayNumber n).year ∧
      (ofDayNumber n).year ≤ (n + epochOffset) / 146097 * 400 + 401 := by
  unfold ofDayNumber
  dsimp only
  split <;> omega

theorem yearInRange_iff {year : Int} : yearInRange year = true ↔ 1 ≤ year ∧ year ≤ 9999 := by
  simp only [yearInRange, Bool.and_eq_true, decide_eq_true_eq]
  exact Iff.rfl

/-- All years with dates lie within some millions of days around 1970. -/
theorem bounds_of_yearInRange {n : Int} (h : yearInRange (ofDayNumber n).year = true) :
    -1000000 ≤ n ∧ n ≤ 4000000 := by
  have hyears := yearInRange_iff.1 h
  have hcycle := year_ofDayNumber n
  unfold epochOffset at hcycle
  omega

end Date

/-- The year of an instant in milliseconds, in UTC. -/
def yearAt (millis : Int) : Int := (Date.ofDayNumber (millis / 86400000)).year

theorem yearAt_seconds (k : Int) : yearAt (k * 1000) = (Date.ofDayNumber (k / 86400)).year := by
  have hday : k * 1000 / 86400000 = k / 86400 := by omega
  rw [yearAt, hday]

/-! ## Seconds -/

namespace Binary64

/-- **Seconds as a binary64 number** are whole, unless there are too many, and
they are exact up to 2⁵³. -/
theorem ofRatio_seconds (k : Int) :
    (∃ n fits bounded, ofRatio (k * 1000) 1000 =
        .finite (decide (k < 0)) (n * unitsPerOne) fits bounded ∧
      (n = k.natAbs ∨ 2 ^ 53 ≤ n ∧ 2 ^ 53 ≤ k.natAbs)) ∨
    ∃ negative, ofRatio (k * 1000) 1000 = .infinite negative ∧ 2 ^ 53 ≤ k.natAbs := by
  have hratio : ofRatio (k * 1000) 1000 =
      ofFraction (decide (k < 0)) (k.natAbs * unitsPerOne) 1 := by
    have hsign : decide (k * 1000 < 0) = decide (k < 0) := decide_eq_decide.2 (by omega)
    have hround : roundToSignificand ((k * 1000).natAbs * unitsPerOne) 1000 =
        roundToSignificand (k.natAbs * unitsPerOne) 1 :=
      roundToSignificand_congr (by decide) (by decide) (by rw [Int.natAbs_mul]; ring)
    rw [ofRatio, hsign, ofFraction_of_round hround]
  rw [hratio]
  rcases Nat.le_total k.natAbs (2 ^ 53) with hsmall | hgreat
  · obtain ⟨fits, hfinite⟩ := ofFraction_of_lt (decide (k < 0))
      (roundToSignificand_of_fits (fits_whole hsmall)) (whole_lt_overflow hsmall)
    exact .inl ⟨k.natAbs, fits, _, hfinite, .inl rfl⟩
  · have hunits : 2 ^ 53 * unitsPerOne ≤ roundToSignificand (k.natAbs * unitsPerOne) 1 := by
      rw [← roundToSignificand_of_fits (fits_whole (Nat.le_refl _))]
      refine roundToSignificand_mono (by decide) (by decide) ?_
      exact Nat.mul_le_mul_right 1 (Nat.mul_le_mul_right _ hgreat)
    obtain ⟨n, hn⟩ := unitsPerOne_dvd (fits_roundToSignificand _ 1) hunits
    rw [Nat.mul_comm unitsPerOne n] at hn
    by_cases hbounded : n * unitsPerOne < overflowUnits
    · obtain ⟨fits, hfinite⟩ := ofFraction_of_lt (decide (k < 0)) hn hbounded
      refine .inl ⟨n, fits, hbounded, hfinite, .inr ⟨?_, hgreat⟩⟩
      rw [hn] at hunits
      exact Nat.le_of_mul_le_mul_right hunits unitsPerOne_pos
    · rw [← hn] at hbounded
      exact .inr ⟨_, dif_neg hbounded, hgreat⟩

/-- A sign and a magnitude make the number. -/
theorem signedUnits_natAbs (k : Int) : signedUnits (decide (k < 0)) k.natAbs = k := by
  unfold signedUnits
  by_cases hneg : k < 0
  · rw [if_pos (decide_eq_true hneg)]
    omega
  · rw [if_neg (by simpa using hneg)]
    omega

theorem mul_finite {a b : Bool} {x y : Nat} {fitsx : FitsSignificand x} {fitsy : FitsSignificand y}
    {boundedx : x < overflowUnits} {boundedy : y < overflowUnits} :
    mul (finite a x fitsx boundedx) (finite b y fitsy boundedy) =
      ofFraction (a != b) (x * y) unitsPerOne := by
  rw [mul]

theorem roundEven?_zero (negative : Bool) : (zero negative).roundEven? = some 0 := by
  show some (signedUnits negative (if 2 * (0 % unitsPerOne) < unitsPerOne then 0 / unitsPerOne
    else if unitsPerOne < 2 * (0 % unitsPerOne) then 0 / unitsPerOne + 1
    else 0 / unitsPerOne + 0 / unitsPerOne % 2)) = _
  rw [Nat.zero_mod, Nat.zero_div, if_pos unitsPerOne_pos]
  cases negative <;> rfl

/-- Nothing remains of zero, whatever it is multiplied with. -/
theorem roundEven?_zero_mul (negative : Bool) (x : Binary64) :
    ((zero negative * x).roundEven?).getD 0 = 0 := by
  cases x with
  | nan => rfl
  | infinite _ => rfl
  | finite negative' units fits bounded =>
      have hzero : zero negative * finite negative' units fits bounded =
          zero (negative != negative') :=
        mul_finite.trans (by rw [Nat.zero_mul, ofFraction_zero])
      rw [hzero, roundEven?_zero]
      rfl

section Whole

variable {negative : Bool} {units n : Nat} {fits : FitsSignificand units}
  {bounded : units < overflowUnits} (h : units = n * unitsPerOne)

include h

theorem truncate?_whole :
    truncate? (.finite negative units fits bounded) = some (signedUnits negative n) := by
  have hdiv : units / unitsPerOne = n := by rw [h, Nat.mul_div_cancel _ unitsPerOne_pos]
  show some (signedUnits negative (units / unitsPerOne)) = _
  rw [hdiv]

/-- A whole number leaves nothing behind its whole part. -/
theorem fractionalPart_whole :
    fractionalPart (.finite negative units fits bounded) = zero negative := by
  have hmod : units % unitsPerOne = 0 := by rw [h, Nat.mul_mod_left]
  show ofFraction negative (units % unitsPerOne) 1 = _
  rw [hmod, ofFraction_zero]

end Whole

end Binary64

namespace Timestamp

theorem day_of_seconds (k : Int) : k * microsPerSecond / microsPerDay = k / 86400 := by
  unfold microsPerDay microsPerSecond
  omega

/-- The time so many whole seconds from the epoch. -/
theorem ofSeconds_whole {negative : Bool} {units n : Nat} {fits : FitsSignificand units}
    {bounded : units < overflowUnits} {k : Int} (h : units = n * unitsPerOne)
    (hk : Binary64.signedUnits negative n = k) :
    (Date.yearInRange (Date.ofDayNumber (k / 86400)).year = true ∧
      ofSeconds (.finite negative units fits bounded) = .ok ⟨k * microsPerSecond, 0⟩) ∨
    (Date.yearInRange (Date.ofDayNumber (k / 86400)).year = false ∧
      ∃ fault, ofSeconds (.finite negative units fits bounded) = .error fault) := by
  have hseconds : ofSeconds (.finite negative units fits bounded) =
      if k < -clockLimit ∨ clockLimit ≤ k then .error .beyondClock
      else
        let year := (Date.ofDayNumber (k / 86400)).year
        if year - 1900 < -calendarLimit ∨ calendarLimit ≤ year - 1900 then .error .beyondCalendar
        else if Date.yearInRange year then .ok ⟨k * microsPerSecond, 0⟩
        else .error (.yearOutOfRange (Int.bmod year 4294967296)) := by
    rw [ofSeconds, Binary64.truncate?_whole h, Binary64.fractionalPart_whole h,
      Binary64.roundEven?_zero_mul, hk, Option.getD_some, Int.add_zero]
    dsimp only
    rw [day_of_seconds]
  rw [hseconds]
  cases hyear : Date.yearInRange (Date.ofDayNumber (k / 86400)).year with
  | true =>
      have hdays := Date.bounds_of_yearInRange hyear
      have hyears := Date.yearInRange_iff.1 hyear
      refine .inl ⟨rfl, ?_⟩
      rw [if_neg (by unfold clockLimit; omega)]
      dsimp only
      rw [if_neg (by unfold calendarLimit; omega), hyear, if_pos rfl]
  | false => 
      refine .inr ⟨rfl, ?_⟩
      split
      · exact ⟨_, rfl⟩
      · dsimp only
        split
        · exact ⟨_, rfl⟩
        · exact ⟨_, if_neg (by simp [hyear])⟩

/-- Seconds beyond 2⁵³ lie beyond all dates. -/
theorem not_yearInRange_of_le {k : Int} (h : 2 ^ 53 ≤ k.natAbs) :
    Date.yearInRange (Date.ofDayNumber (k / 86400)).year = false := by
  refine Bool.eq_false_iff.2 fun hyear => ?_
  have := Date.bounds_of_yearInRange hyear
  omega

/-- **A whole number of seconds, in milliseconds, is a time in UTC** if and only
if it lies in a year that dates have. -/
theorem ofMillis_seconds (k : Int) :
    (Date.yearInRange (yearAt (k * 1000)) = true ∧
      ofMillis (k * 1000) = .ok ⟨k * microsPerSecond, 0⟩) ∨
    (Date.yearInRange (yearAt (k * 1000)) = false ∧
      ∃ fault, ofMillis (k * 1000) = .error fault) := by
  rw [yearAt_seconds]
  rcases Binary64.ofRatio_seconds k with ⟨n, fits, bounded, hratio, hn⟩ | ⟨_, hratio, hgreat⟩
  · have hmillis : ofMillis (k * 1000) =
        ofSeconds (.finite (decide (k < 0)) (n * unitsPerOne) fits bounded) := by
      rw [ofMillis, hratio]
      rfl
    rw [hmillis]
    rcases hn with rfl | ⟨hn, hgreat⟩
    · exact ofSeconds_whole rfl (Binary64.signedUnits_natAbs k)
    · have hbeyond : 2 ^ 53 ≤ (Binary64.signedUnits (decide (k < 0)) n).natAbs := by
        unfold Binary64.signedUnits
        split <;> omega
      refine .inr ⟨not_yearInRange_of_le hgreat, ?_⟩
      rcases ofSeconds_whole rfl rfl with ⟨hyear, _⟩ | ⟨_, hfault⟩
      · rw [not_yearInRange_of_le hbeyond] at hyear
        cases hyear
      · exact hfault
  · rw [ofMillis, hratio]
    exact .inr ⟨not_yearInRange_of_le hgreat, _, rfl⟩

end Timestamp

/-! ## Labels -/

namespace TimeChartStage

/-- The label of a start in these years is its time in UTC. -/
theorem label_utc {k : Int} (h : 1 ≤ yearAt (k * 1000) ∧ yearAt (k * 1000) ≤ 9999) :
    label .utc (k * 1000) = .ok (shownLabel ⟨k * microsPerSecond, 0⟩) := by
  have hyear := Date.yearInRange_iff.2 h
  rcases Timestamp.ofMillis_seconds k with ⟨-, htime⟩ | ⟨hnot, -⟩
  · have hshow : Zone.utc.show? ⟨k * microsPerSecond, 0⟩ = .ok ⟨k * microsPerSecond, 0⟩ := by
      rw [yearAt_seconds] at hyear
      simp [Zone.show?, Timestamp.instant, Timestamp.date,
        Timestamp.day_of_seconds, hyear]
    have hlabel : (do return shownLabel (← Zone.utc.show? ⟨k * microsPerSecond, 0⟩) :
        Except TimeFault String) = .ok (shownLabel ⟨k * microsPerSecond, 0⟩) := by
      rw [hshow]
      rfl
    rw [label, htime]
    exact hlabel
  · rw [hyear] at hnot
    cases hnot

/-- **A start has a label in UTC** if and only if it lies in the years 1 to
9999. -/
theorem label_utc_iff {start : Int} (h : 1000 ∣ start) :
    (∃ text, label .utc start = .ok text) ↔ 1 ≤ yearAt start ∧ yearAt start ≤ 9999 := by
  obtain ⟨k, rfl⟩ := h
  rw [Int.mul_comm 1000 k]
  refine ⟨fun ⟨text, htext⟩ => ?_, fun hyear => ⟨_, label_utc hyear⟩⟩
  rcases Timestamp.ofMillis_seconds k with ⟨hyear, -⟩ | ⟨-, fault, htime⟩
  · exact Date.yearInRange_iff.1 hyear
  · rw [label, htime] at htext
    cases htext

/-! ## Charts -/

variable {s : TimeChartStage}

/-- The starts of all spans of the chart of some records. -/
def starts (s : TimeChartStage) (records : List Record) : List Int :=
  match rangeOf (records.filterMap s.placed?) with
  | none => []
  | some (low, high) => s.spanStarts low high

/-- **A chart fails only for want of a label**, and then with the first that
there is not. -/
theorem bucket_cases (s : TimeChartStage) (records : List Record) :
    ((∀ start ∈ s.starts records, ∃ text, label s.zone start = .ok text) ∧
      ∃ chart, s.bucket records = .ok chart) ∨
    ∃ start ∈ s.starts records, ∃ reason, label s.zone start = .error reason ∧
      s.bucket records = .error (.time reason) := by
  simp only [bucket, starts, counts_eq]
  cases rangeOf (records.filterMap s.placed?) with
  | none => exact .inl ⟨by simp, _, rfl⟩
  | some ends =>
      obtain ⟨low, high⟩ := ends
      dsimp only
      cases hlabels : (s.spanStarts low high).mapM (label s.zone) with
      | ok labels =>
          refine .inl ⟨fun start hstart => ?_, _, rfl⟩
          obtain ⟨text, _, htext⟩ := (Except.mem_of_mapM_eq_ok hlabels).1 start hstart
          exact ⟨text, htext⟩
      | error reason =>
          obtain ⟨before, start, behind, hsplit, _, hlabel⟩ := Except.mapM_eq_error_iff.1 hlabels
          exact .inr ⟨start, by simp [hsplit], reason, hlabel, rfl⟩

/-- The starts are whole numbers of spans. -/
theorem dvd_of_mem_starts {records : List Record} {n : Nat} (h : n ∣ s.spanMillis) :
    ∀ start ∈ s.starts records, (n : Int) ∣ start := by
  intro start hstart
  unfold starts at hstart
  split at hstart
  · cases hstart
  · obtain ⟨i, _, rfl⟩ := List.mem_map.1 hstart
    exact Dvd.dvd.mul_left (Int.natCast_dvd_natCast.2 h) _

/-- **A chart in UTC fails** if and only if one of its spans starts outside the
years 1 to 9999. -/
theorem bucket_utc_error_iff {records : List Record} (hzone : s.zone = .utc)
    (hspan : 1000 ∣ s.spanMillis) :
    (∃ reason, s.bucket records = .error (.time reason)) ↔
      ∃ start ∈ s.starts records, ¬ (1 ≤ yearAt start ∧ yearAt start ≤ 9999) := by
  have hlabel : ∀ start ∈ s.starts records,
      (∃ text, label s.zone start = .ok text) ↔ 1 ≤ yearAt start ∧ yearAt start ≤ 9999 :=
    fun start hstart => hzone ▸ label_utc_iff (dvd_of_mem_starts hspan start hstart)
  rcases s.bucket_cases records with ⟨hlabels, chart, hok⟩ | ⟨start, hstart, reason, hnone, herror⟩
  · refine iff_of_false ?_ ?_
    · rintro ⟨reason, herror⟩
      rw [hok] at herror
      cases herror
    · rintro ⟨start, hstart, hyear⟩
      exact hyear ((hlabel start hstart).1 (hlabels start hstart))
  · refine iff_of_true ⟨reason, herror⟩ ⟨start, hstart, fun hyear => ?_⟩
    obtain ⟨text, htext⟩ := (hlabel start hstart).2 hyear
    rw [hnone] at htext
    cases htext

end TimeChartStage

end PipeQuery
