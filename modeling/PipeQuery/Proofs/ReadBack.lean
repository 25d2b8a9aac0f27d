import PipeQuery.Proofs.Decimals
import Mathlib.Data.List.TakeWhile

/-!
# Numbers read back from their texts

A number is written in full with a sign, a point and, if it is very great or
very small, an exponent.  An aggregation reads the digits and points of that
text only.

* `numberIn?_shown_of_isPlain`: without an exponent, what it reads is the
  magnitude of the number: the sign is lost and nothing else.
* `numberIn?_shown_of_not_isPlain`: with an exponent, it reads another number,
  because the digits of the exponent are read as digits of the number.
-/

namespace PipeQuery

/-! ## Digits -/

/-- The number that some digits spell. -/
def numberOf (digits : List Char) : Nat := ofDigits (digits.map digitOf)

theorem numberOf_eq (digits : List Char) : numberOf digits = Nat.ofDigitChars 10 digits 0 := by
  rw [numberOf, ofDigits, List.foldl_map]
  rfl

theorem numberOf_toDigits (n : Nat) : numberOf (Nat.toDigits 10 n) = n := by
  rw [numberOf_eq, Nat.ofDigitChars_ten_toDigits]

theorem numberOf_append (digits more : List Char) :
    numberOf (digits ++ more) = numberOf digits * 10 ^ more.length + numberOf more := by
  simp only [numberOf_eq, Nat.ofDigitChars_append]
  rw [Nat.ofDigitChars_eq_ofDigitChars_zero, Nat.mul_comm]

@[simp]
theorem numberOf_replicate (n : Nat) : numberOf (List.replicate n '0') = 0 := by
  simp [numberOf_eq]

theorem numberOf_singleton (c : Char) : numberOf [c] = digitOf c := by
  simp [numberOf, ofDigits]

theorem digitOf_lt {c : Char} (h : c.isDigit = true) : digitOf c < 10 := by
  have := toNat_of_isDigit h
  unfold digitOf
  omega

theorem digitOf_pos {c : Char} (h : c.isDigit = true) (hc : c ≠ '0') : 0 < digitOf c := by
  have hrange := toNat_of_isDigit h
  have hne : c.toNat ≠ 48 := fun h48 => hc (Char.toNat_inj.1 h48)
  unfold digitOf
  omega

theorem numberOf_lt {digits : List Char} (h : ∀ c ∈ digits, c.isDigit = true) :
    numberOf digits < 10 ^ digits.length := by
  induction digits with
  | nil => decide
  | cons c rest ih =>
      have hc := digitOf_lt (h c (List.mem_cons_self ..))
      have hrest := ih fun d hd => h d (List.mem_cons_of_mem _ hd)
      rw [← List.singleton_append, numberOf_append, numberOf_singleton, List.length_append,
        List.length_singleton, Nat.pow_add, Nat.pow_one]
      nlinarith

/-- Digits whose first one is not zero spell a number of that length. -/
theorem le_numberOf {c : Char} {rest : List Char} (h : c.isDigit = true) (hc : c ≠ '0') :
    10 ^ rest.length ≤ numberOf (c :: rest) := by
  have hpos := digitOf_pos h hc
  rw [← List.singleton_append, numberOf_append, numberOf_singleton]
  nlinarith [Nat.one_le_pow rest.length 10 (by decide)]

theorem isDigit_of_mem_toDigits {n : Nat} {c : Char} (hc : c ∈ Nat.toDigits 10 n) :
    c.isDigit = true :=
  Nat.isDigit_of_mem_toDigits (by decide) (by decide) hc

/-- The digits of a positive number do not begin with zero. -/
theorem toDigits_ne_zero_cons {n : Nat} (hn : n ≠ 0) (rest : List Char) :
    Nat.toDigits 10 n ≠ '0' :: rest := by
  intro heq
  have hlength : decimalLength n = rest.length + 1 := by rw [decimalLength, heq]; rfl
  have hlow : 10 ^ rest.length ≤ n := pow_le_of_lt_decimalLength (by omega) (by omega)
  have hisDigit : ∀ c ∈ rest, c.isDigit = true := by
    intro c hc
    have hmem : c ∈ Nat.toDigits 10 n := heq ▸ List.mem_cons_of_mem _ hc
    exact isDigit_of_mem_toDigits hmem
  have hnumber : n = numberOf rest := by
    rw [← numberOf_toDigits n, heq, ← List.singleton_append, numberOf_append]
    simp [numberOf_singleton, digitOf]
  have hhigh := numberOf_lt hisDigit
  omega

/-! ## Reading plain decimals -/

theorem splitDigits_append {digits rest : List Char} (h : ∀ c ∈ digits, c.isDigit = true)
    (hrest : ∀ c ∈ rest.head?, c.isDigit = false) :
    splitDigits (digits ++ rest) = (digits.map digitOf, rest) := by
  rw [splitDigits, List.takeWhile_append_of_pos h, List.dropWhile_append_of_pos h]
  cases rest with
  | nil => simp
  | cons c rest =>
      have hc := hrest c rfl
      rw [List.takeWhile_cons_of_neg (by simp [hc]), List.dropWhile_cons_of_neg (by simp [hc]),
        List.append_nil]

theorem splitDigits_digits {digits : List Char} (h : ∀ c ∈ digits, c.isDigit = true) :
    splitDigits digits = (digits.map digitOf, []) := by
  have hsplit : splitDigits (digits ++ []) = (digits.map digitOf, []) :=
    splitDigits_append h (by simp)
  rwa [List.append_nil] at hsplit

/-- Digits with a point between them. -/
theorem readDecimal?_point {whole places : List Char} (hwhole : ∀ c ∈ whole, c.isDigit = true)
    (hplaces : ∀ c ∈ places, c.isDigit = true) (hne : whole ≠ []) :
    readDecimal? (whole ++ '.' :: places) =
      some ⟨numberOf (whole ++ places), -(places.length : Int)⟩ := by
  have hsplit : splitDigits (whole ++ '.' :: places) = (whole.map digitOf, '.' :: places) :=
    splitDigits_append hwhole (by simp)
  simp [readDecimal?, hsplit, splitDigits_digits hplaces, hne, readExponent?, numberOf]

/-- Digits without a point. -/
theorem readDecimal?_digits {digits : List Char} (h : ∀ c ∈ digits, c.isDigit = true)
    (hne : digits ≠ []) : readDecimal? digits = some ⟨numberOf digits, 0⟩ := by
  simp [readDecimal?, splitDigits_digits h, hne, readExponent?, numberOf]

/-! ## The digits that are written -/

namespace Binary64

/-- The digits in front of the zeros at the end of a number: `first :: rest`,
which does not begin with zero. -/
structure Significant (d : Decimal) (first : Char) (rest : List Char) (zeros : Nat) : Prop where
  eq : significant d = (first :: rest, d.point)
  isDigit : ∀ c ∈ first :: rest, c.isDigit = true
  first_ne : first ≠ '0'
  digits : d.digits = numberOf (first :: rest) * 10 ^ zeros
  length : decimalLength d.digits = (first :: rest).length + zeros

/-- What is dropped at the end are zeros. -/
theorem exists_eq_append_zeros (digits : List Char) :
    ∃ zeros, digits = Text.dropEndWhile (· == '0') digits ++ List.replicate zeros '0' := by
  refine ⟨(digits.reverse.takeWhile (· == '0')).length, ?_⟩
  have hzeros : digits.reverse.takeWhile (· == '0') =
      List.replicate (digits.reverse.takeWhile (· == '0')).length '0' :=
    List.eq_replicate_iff.2 ⟨rfl, fun c hc => by simpa using List.mem_takeWhile_imp hc⟩
  rw [Text.dropEndWhile, ← List.reverse_replicate, ← hzeros, ← List.reverse_append,
    List.takeWhile_append_dropWhile, List.reverse_reverse]

theorem exists_significant {d : Decimal} (hd : d.digits ≠ 0) :
    ∃ first rest zeros, Significant d first rest zeros := by
  obtain ⟨zeros, hzeros⟩ := exists_eq_append_zeros (Nat.toDigits 10 d.digits)
  have hhead := toDigits_ne_zero_cons hd
  cases hdigits : Text.dropEndWhile (· == '0') (Nat.toDigits 10 d.digits) with
  | nil =>
      rw [hdigits, List.nil_append] at hzeros
      cases zeros with
      | zero => exact absurd hzeros Nat.toDigits_ne_nil
      | succ n => exact absurd hzeros (hhead _)
  | cons first rest =>
      rw [hdigits] at hzeros
      refine ⟨first, rest, zeros, ?_, ?_, ?_, ?_, ?_⟩
      · rw [significant, hdigits]
        rfl
      · intro c hc
        have hmem : c ∈ Nat.toDigits 10 d.digits := hzeros ▸ List.mem_append_left _ hc
        exact isDigit_of_mem_toDigits hmem
      · rintro rfl
        exact hhead _ hzeros
      · have h := numberOf_append (first :: rest) (List.replicate zeros '0')
        rw [← hzeros, numberOf_toDigits, numberOf_replicate, List.length_replicate] at h
        exact h
      · rw [decimalLength, hzeros, List.length_append, List.length_replicate]

/-- Digits around a point that spell a decimal number. -/
structure Spells (d : Decimal) (whole places : List Char) : Prop where
  isDigit : ∀ c ∈ whole ++ places, c.isDigit = true
  whole_ne : whole ≠ []
  value : ∀ negative, ofDecimal negative ⟨numberOf (whole ++ places), -(places.length : Int)⟩ =
    ofDecimal negative d

theorem isDigit_of_mem_zeros {n : Nat} {c : Char} (hc : c ∈ List.replicate n '0') :
    c.isDigit = true := by
  rw [List.eq_of_mem_replicate hc]
  decide

namespace Significant

variable {d : Decimal} {first : Char} {rest : List Char} {zeros : Nat}
  (h : Significant d first rest zeros)

include h

/-- The value, as the number of the digits in front of the zeros. -/
theorem ofDecimal_eq (negative : Bool) :
    ofDecimal negative d = ofDecimal negative ⟨numberOf (first :: rest), d.exponent + zeros⟩ := by
  rw [← ofDecimal_shift, ← h.digits]

theorem point_eq : d.point = d.exponent + zeros + (first :: rest).length := by
  rw [Decimal.point, h.length]
  omega

/-- Below one, zeros stand between the point and the digits. -/
theorem spells_below_one (hpoint : d.point ≤ 0) :
    Spells d ['0'] (List.replicate (-d.point).toNat '0' ++ (first :: rest)) := by
  have heq := h.point_eq
  have hzeros : ['0'] ++ (List.replicate (-d.point).toNat '0' ++ (first :: rest)) =
      List.replicate ((-d.point).toNat + 1) '0' ++ (first :: rest) := rfl
  refine ⟨fun c hc => ?_, by simp, fun negative => ?_⟩
  · rw [hzeros] at hc
    exact (List.mem_append.1 hc).elim isDigit_of_mem_zeros (h.isDigit c)
  · rw [h.ofDecimal_eq, hzeros, numberOf_append, numberOf_replicate, Nat.zero_mul, Nat.zero_add,
      List.length_append, List.length_replicate]
    congr 2
    omega

/-- A whole number has zeros up to the point, and one behind it. -/
theorem spells_whole (hfit : (first :: rest).length ≤ d.point.toNat) :
    Spells d ((first :: rest) ++ List.replicate (d.point.toNat - (first :: rest).length) '0')
      ['0'] := by
  have heq := h.point_eq
  have hzeros : (first :: rest) ++ List.replicate (d.point.toNat - (first :: rest).length) '0' ++
      ['0'] = (first :: rest) ++
        List.replicate (d.point.toNat - (first :: rest).length + 1) '0' := by
    rw [List.append_assoc, List.replicate_succ']
  have hpos : 0 < (first :: rest).length := Nat.succ_pos _
  refine ⟨fun c hc => ?_, by simp, fun negative => ?_⟩
  · rw [hzeros] at hc
    exact (List.mem_append.1 hc).elim (h.isDigit c) isDigit_of_mem_zeros
  · rw [h.ofDecimal_eq, hzeros, numberOf_append, numberOf_replicate, Nat.add_zero,
      List.length_replicate, ofDecimal_shift]
    congr 2
    simp only [List.length_singleton]
    omega

/-- Otherwise the point stands among the digits. -/
theorem spells_split (hpoint : 0 < d.point) (hfit : d.point.toNat < (first :: rest).length) :
    Spells d ((first :: rest).take d.point.toNat) ((first :: rest).drop d.point.toNat) := by
  have heq := h.point_eq
  refine ⟨?_, ?_, fun negative => ?_⟩
  · rw [List.take_append_drop]
    exact h.isDigit
  · rw [ne_eq, List.take_eq_nil_iff]
    simp
    omega
  · rw [List.take_append_drop, h.ofDecimal_eq, List.length_drop]
    congr 2
    omega

/-- Without an exponent, a number is written with a point between digits that
spell its value. -/
theorem write_plain (hlow : -3 ≤ d.point) (hhigh : d.point ≤ 16) :
    ∃ whole places, fullLayout.write d = whole ++ '.' :: places ∧ Spells d whole places := by
  have hinside : ¬(decide (d.point < fullLayout.least) || decide (fullLayout.greatest < d.point)) =
      true := by
    rw [Bool.or_eq_true, decide_eq_true_eq, decide_eq_true_eq]
    show ¬(d.point < -3 ∨ 16 < d.point)
    omega
  rw [Layout.write, h.eq]
  dsimp only
  rw [if_neg hinside]
  by_cases hnone : d.point ≤ 0
  · rw [if_pos hnone]
    exact ⟨_, _, rfl, h.spells_below_one hnone⟩
  · rw [if_neg hnone]
    by_cases hfit : (first :: rest).length ≤ d.point.toNat
    · have hdrop : (first :: rest).drop d.point.toNat = [] := List.drop_eq_nil_of_le hfit
      rw [List.take_of_length_le hfit, hdrop]
      exact ⟨_, _, rfl, h.spells_whole hfit⟩
    · have hpadding : d.point.toNat - (first :: rest).length = 0 := by omega
      have hdrop : ((first :: rest).drop d.point.toNat).isEmpty = false := by
        rw [List.isEmpty_eq_false_iff, ne_eq, List.drop_eq_nil_iff]
        exact hfit
      rw [hpadding, hdrop]
      exact ⟨_, _, by simp, h.spells_split (Int.not_le.1 hnone) (Nat.lt_of_not_le hfit)⟩

theorem write_exponent (hout : d.point < -3 ∨ 16 < d.point) :
    fullLayout.write d =
      first :: ((if rest.isEmpty then [] else '.' :: rest) ++ shownExponent (d.point - 1)) := by
  have houtside : (decide (d.point < fullLayout.least) || decide (fullLayout.greatest < d.point)) =
      true := by
    rw [Bool.or_eq_true, decide_eq_true_eq, decide_eq_true_eq]
    exact hout
  rw [Layout.write, h.eq]
  dsimp only
  rw [if_pos houtside]
  cases rest <;> rfl

end Significant

/-! ## What is read of them -/

/-- The digits of an exponent. -/
def exponentDigits (e : Int) : List Char :=
  List.replicate (2 - (Nat.toDigits 10 e.natAbs).length) '0' ++ Nat.toDigits 10 e.natAbs

theorem isDigit_of_mem_exponentDigits {e : Int} {c : Char} (hc : c ∈ exponentDigits e) :
    c.isDigit = true := by
  rcases List.mem_append.1 hc with hc | hc
  · exact isDigit_of_mem_zeros hc
  · exact isDigit_of_mem_toDigits hc

theorem length_exponentDigits_le {e : Int} (h : e.natAbs < 1000) :
    (exponentDigits e).length ≤ 3 := by
  have hlength : (Nat.toDigits 10 e.natAbs).length ≤ 3 :=
    (Nat.length_toDigits_le_iff (by decide) (by decide)).2 h
  rw [exponentDigits, List.length_append, List.length_replicate]
  omega

theorem isNumberChar_of_isDigit {c : Char} (h : c.isDigit = true) : isNumberChar c = true := by
  simp [isNumberChar, h]

theorem filter_isNumberChar {digits : List Char} (h : ∀ c ∈ digits, c.isDigit = true) :
    digits.filter isNumberChar = digits :=
  List.filter_eq_self.2 fun c hc => isNumberChar_of_isDigit (h c hc)

/-- Of an exponent only the digits are read. -/
theorem filter_shownExponent (e : Int) :
    (shownExponent e).filter isNumberChar = exponentDigits e := by
  have hsign : isNumberChar (if e < 0 then '-' else '+') = false := by
    split <;> decide
  rw [shownExponent, List.filter_cons_of_neg (by decide), List.filter_cons_of_neg (by simp [hsign])]
  exact filter_isNumberChar fun c hc => isDigit_of_mem_exponentDigits hc

/-- The point of a number that begins with its first digit. -/
theorem point_of_numberOf {first : Char} {rest : List Char}
    (h : ∀ c ∈ first :: rest, c.isDigit = true) (hfirst : first ≠ '0') (e : Int) :
    (⟨numberOf (first :: rest), e⟩ : Decimal).digits ≠ 0 ∧
      (⟨numberOf (first :: rest), e⟩ : Decimal).point = e + rest.length + 1 := by
  have hlow : 10 ^ rest.length ≤ numberOf (first :: rest) :=
    le_numberOf (h first (List.mem_cons_self ..)) hfirst
  have hpos : 0 < 10 ^ rest.length := Nat.pow_pos (by decide)
  refine ⟨?_, ?_⟩
  · show numberOf (first :: rest) ≠ 0
    omega
  · rw [Decimal.point, decimalLength_eq hlow (numberOf_lt h)]
    show e + ((rest.length + 1 : Nat) : Int) = _
    omega

/-- **A number with an exponent is misread**: its digits and those of the
exponent are read as a number from one to below ten thousand. -/
theorem Significant.read_exponent {d : Decimal} {first : Char} {rest : List Char} {zeros : Nat}
    (h : Significant d first rest zeros) (hrange : d.InRange)
    (hout : d.point < -3 ∨ 16 < d.point) :
    ∃ misread : Decimal, readDecimal? ((fullLayout.write d).filter isNumberChar) = some misread ∧
      misread.digits ≠ 0 ∧ 1 ≤ misread.point ∧ misread.point ≤ 4 := by
  have hlow := hrange.low
  have hhigh := hrange.high
  have hlength : (exponentDigits (d.point - 1)).length ≤ 3 := length_exponentDigits_le (by omega)
  have hfirst : first.isDigit = true := h.isDigit first (List.mem_cons_self ..)
  have hrest : ∀ c ∈ rest, c.isDigit = true := fun c hc => h.isDigit c (List.mem_cons_of_mem _ hc)
  have htail : ∀ c ∈ rest ++ exponentDigits (d.point - 1), c.isDigit = true :=
    fun c hc => (List.mem_append.1 hc).elim (hrest c) isDigit_of_mem_exponentDigits
  have hall : ∀ c ∈ first :: (rest ++ exponentDigits (d.point - 1)), c.isDigit = true :=
    fun c hc => (List.mem_cons.1 hc).elim (fun hc => hc ▸ hfirst) (htail c)
  rw [h.write_exponent hout, List.filter_cons_of_pos (isNumberChar_of_isDigit hfirst),
    List.filter_append, filter_shownExponent]
  cases rest with
  | nil =>
      obtain ⟨hdigits, hpoint⟩ := point_of_numberOf hall h.first_ne 0
      rw [List.nil_append] at hdigits hpoint hall
      exact ⟨⟨numberOf (first :: exponentDigits (d.point - 1)), 0⟩,
        readDecimal?_digits hall (by simp), hdigits, by omega, by omega⟩
  | cons second others =>
      obtain ⟨hdigits, hpoint⟩ := point_of_numberOf hall h.first_ne
        (-((second :: others ++ exponentDigits (d.point - 1)).length : Int))
      have htext : first :: ((if (second :: others).isEmpty then [] else
          '.' :: second :: others).filter isNumberChar ++ exponentDigits (d.point - 1)) =
          [first] ++ '.' :: (second :: others ++ exponentDigits (d.point - 1)) := by
        rw [List.isEmpty_cons, if_neg (by simp), List.filter_cons_of_pos (by decide),
          filter_isNumberChar hrest]
        rfl
      rw [htext]
      exact ⟨⟨numberOf (first :: (second :: others ++ exponentDigits (d.point - 1))),
          -((second :: others ++ exponentDigits (d.point - 1)).length : Int)⟩,
        readDecimal?_point (by simpa using hfirst) htail (by simp), hdigits, by omega, by omega⟩

/-- Digits around a point are read as they are written. -/
theorem Spells.read {d : Decimal} {whole places : List Char} (h : Spells d whole places) :
    readDecimal? ((whole ++ '.' :: places).filter isNumberChar) =
      some ⟨numberOf (whole ++ places), -(places.length : Int)⟩ := by
  have hwhole : ∀ c ∈ whole, c.isDigit = true :=
    fun c hc => h.isDigit c (List.mem_append_left _ hc)
  have hplaces : ∀ c ∈ places, c.isDigit = true :=
    fun c hc => h.isDigit c (List.mem_append_right _ hc)
  rw [List.filter_append, filter_isNumberChar hwhole, List.filter_cons_of_pos (by decide),
    filter_isNumberChar hplaces, readDecimal?_point hwhole hplaces h.whole_ne]

/-! ## The numbers without an exponent -/

/-- The number without its sign. -/
def abs : Binary64 → Binary64
  | nan => nan
  | infinite _ => infinite false
  | finite _ units fits bounded => finite false units fits bounded

/-- Zero, or a magnitude from 10⁻⁴ to below 10¹⁶. -/
def IsPlain (x : Binary64) : Prop :=
  x.isZero = true ∨
    (ofDecimal false (.power (-4))).le x.abs = true ∧ x.abs.lt (ofDecimal false (.power 16)) = true

instance (x : Binary64) : Decidable x.IsPlain := inferInstanceAs (Decidable (_ ∨ _))

theorem inRange_power {p : Int} (hlow : -331 ≤ p) (hhigh : p < 310) :
    (Decimal.power p).InRange := by
  have hlength : decimalLength 1 = 1 := by decide
  have hpoint : (Decimal.power p).point = p + 1 := by
    simp [Decimal.point, Decimal.power, hlength]
  exact ⟨Nat.one_ne_zero, by omega, by omega⟩

/-- A power of ten that the format holds is a number of the format. -/
theorem ofDecimal_power {p : Int} (hlow : -331 ≤ p) (hhigh : p < 310)
    (hbounded : (Decimal.power p).units < overflowUnits) :
    (ofDecimal false (.power p)).isNaN = false ∧
      (ofDecimal false (.power p)).rank = ((Decimal.power p).units : ℤ) := by
  have heq : ofDecimal false (.power p) =
      finite false (Decimal.power p).units (fits_roundToSignificand _ _) hbounded := by
    rw [ofDecimal_eq (inRange_power hlow hhigh)]
    exact dif_pos hbounded
  rw [heq]
  exact ⟨rfl, rfl⟩

theorem isPlain_finite (negative : Bool) {units : Nat} (fits : FitsSignificand units)
    (bounded : units < overflowUnits) :
    (finite negative units fits bounded).IsPlain ↔
      units = 0 ∨ (Decimal.power (-4)).units ≤ units ∧ units < (Decimal.power 16).units := by
  have hzero : (finite negative units fits bounded).isZero = true ↔ units = 0 := beq_iff_eq
  have hrank : (finite negative units fits bounded).abs.rank = (units : ℤ) := rfl
  have hnumber : (finite negative units fits bounded).abs.isNaN = false := rfl
  obtain ⟨hlow, hlowRank⟩ := ofDecimal_power (p := -4) (by decide) (by decide) (by decide +kernel)
  obtain ⟨hhigh, hhighRank⟩ := ofDecimal_power (p := 16) (by decide) (by decide) (by decide +kernel)
  rw [IsPlain, hzero, le_iff_rank_le hlow hnumber, lt_iff_rank_lt hnumber hhigh, hrank, hlowRank,
    hhighRank, Int.ofNat_le, Int.ofNat_lt]

section Finite

variable {units : Nat} (fits : FitsSignificand units) (bounded : units < overflowUnits)

include fits bounded

/-- Where a power of ten is written at its own place, the place of the point
tells which magnitudes it does not exceed. -/
theorem lt_point_shortest_iff {p : Int}
    (hp : (shortest (Decimal.power p).units).point = p + 1) (hunits : 0 < units) :
    p < (shortest units).point ↔ (Decimal.power p).units ≤ units := by
  obtain ⟨hrange, heq⟩ :=
    inRange_of_ofDecimal fits bounded hunits (ofDecimal_shortest fits bounded hunits)
  constructor
  · intro hlt
    have hle := Decimal.power_le_units hrange.digits hlt
    rwa [heq] at hle
  · intro hle
    by_contra hnot
    have hge := Decimal.units_le_power (Int.not_lt.1 hnot)
    rw [heq] at hge
    rw [Nat.le_antisymm hge hle] at hnot
    omega

theorem isPlain_iff_point (negative : Bool) (hunits : 0 < units) :
    (finite negative units fits bounded).IsPlain ↔
      -3 ≤ (shortest units).point ∧ (shortest units).point ≤ 16 := by
  have hlow := lt_point_shortest_iff fits bounded (p := -4) (by decide +kernel) hunits
  have hhigh := lt_point_shortest_iff fits bounded (p := 16) (by decide +kernel) hunits
  rw [isPlain_finite, or_iff_right hunits.ne', ← hlow, ← Nat.not_le, ← hhigh, Int.not_lt]
  exact Iff.rfl

end Finite

/-- Of a sign nothing is read. -/
theorem numberChars_withSign (negative : Bool) (cs : List Char) :
    numberChars (withSign negative cs) = cs.filter isNumberChar := by
  rw [numberChars, withSign, String.toList_ofList]
  cases negative with
  | false => rfl
  | true => exact List.filter_cons_of_neg (by decide)

theorem numberChars_shown (negative : Bool) {units : Nat} (fits : FitsSignificand units)
    (bounded : units < overflowUnits) (hunits : 0 < units) :
    numberChars (finite negative units fits bounded).shown =
      (fullLayout.write (shortest units)).filter isNumberChar := by
  rw [shown, written, numberChars_withSign, if_neg hunits.ne']

theorem numberIn?_shown_zero (negative : Bool) (fits : FitsSignificand 0)
    (bounded : 0 < overflowUnits) :
    numberIn? (finite negative 0 fits bounded).shown = some (zero false) := by
  rw [numberIn?_eq, shown, written, numberChars_withSign, if_pos rfl]
  rfl

/-- **Without an exponent**, the magnitude is read. -/
theorem numberIn?_shown_of_isPlain {x : Binary64} (hfinite : x.isFinite = true)
    (hplain : x.IsPlain) : numberIn? x.shown = some x.abs := by
  cases x with
  | nan => cases hfinite
  | infinite negative => cases hfinite
  | finite negative units fits bounded =>
      rcases Nat.eq_zero_or_pos units with rfl | hunits
      · exact numberIn?_shown_zero negative fits bounded
      · have hread := ofDecimal_shortest fits bounded hunits
        obtain ⟨hrange, -⟩ := inRange_of_ofDecimal fits bounded hunits hread
        obtain ⟨first, rest, zeros, hdigits⟩ := exists_significant hrange.digits
        obtain ⟨hlow, hhigh⟩ := (isPlain_iff_point fits bounded negative hunits).1 hplain
        obtain ⟨whole, places, hwrite, hspells⟩ := hdigits.write_plain hlow hhigh
        rw [numberIn?_eq, numberChars_shown _ _ _ hunits, hwrite, hspells.read, Option.map_some,
          hspells.value, hread, abs]

/-- **With an exponent**, another number is read. -/
theorem numberIn?_shown_of_not_isPlain {x : Binary64} (hfinite : x.isFinite = true)
    (hplain : ¬x.IsPlain) : ∃ y, numberIn? x.shown = some y ∧ y ≠ x.abs := by
  cases x with
  | nan => cases hfinite
  | infinite negative => cases hfinite
  | finite negative units fits bounded =>
      have hunits : 0 < units := by
        refine Nat.pos_of_ne_zero fun hzero => hplain ?_
        exact (isPlain_finite negative fits bounded).2 (Or.inl hzero)
      obtain ⟨hrange, -⟩ :=
        inRange_of_ofDecimal fits bounded hunits (ofDecimal_shortest fits bounded hunits)
      obtain ⟨first, rest, zeros, hdigits⟩ := exists_significant hrange.digits
      have hout := mt (isPlain_iff_point fits bounded negative hunits).2 hplain
      obtain ⟨misread, hread, hne, hone, hfour⟩ := hdigits.read_exponent hrange (by omega)
      refine ⟨ofDecimal false misread, ?_, fun heq => hplain ?_⟩
      · rw [numberIn?_eq, numberChars_shown _ _ _ hunits, hread, Option.map_some]
      · -- what is read lies from one to ten thousand, where no number has an exponent
        obtain ⟨-, hmisread⟩ := inRange_of_ofDecimal fits bounded hunits heq
        have hge := Decimal.power_le_units hne (p := 0) (by omega)
        have hle := Decimal.units_le_power hfour
        rw [hmisread] at hge hle
        have hlow : (Decimal.power (-4)).units ≤ (Decimal.power 0).units := by decide +kernel
        have hhigh : (Decimal.power 4).units < (Decimal.power 16).units := by decide +kernel
        exact (isPlain_finite negative fits bounded).2
          (Or.inr ⟨Nat.le_trans hlow hge, Nat.lt_of_le_of_lt hle hhigh⟩)

example : numberIn? (ofDecimal false ⟨1, 17⟩).shown = some (ofInt 117) := by decide +kernel

end Binary64

end PipeQuery
