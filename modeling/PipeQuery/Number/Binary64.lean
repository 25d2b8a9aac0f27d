/-!
# Binary64 numbers, exactly

Every finite binary64 number is a whole multiple of the least subnormal,
2⁻¹⁰⁷⁴, so a magnitude is kept as a natural number of such *units*.  Sums,
products and quotients are computed exactly on integers and rounded once, by
`roundToSignificand`; the type itself says that a magnitude has at most 53
significant bits (`FitsSignificand`) and lies below 2¹⁰²⁴.

* `fits_roundToSignificand`: rounding always yields a magnitude of the format.
* `roundToSignificand_of_fits`: a magnitude of the format is its own rounding.
-/

namespace PipeQuery

/-- A natural number that a 53-bit significand and a power of two can hold. -/
def FitsSignificand (n : Nat) : Prop :=
  ∃ m s : Nat, m ≤ Nat.pow 2 53 ∧ n = m * Nat.pow 2 s

/-- The number of low bits that `n` loses when it is cut to 53 bits. -/
def excessBits (n : Nat) : Nat := n.log2 - 52

/-- The fraction `num / den`, rounded to the nearest natural number with at
most 53 significant bits; a half goes to the even significand. -/
def roundToSignificand (num den : Nat) : Nat :=
  let step := Nat.pow 2 (excessBits (num / den))
  let whole := num / (den * step)
  let rest := num % (den * step)
  let significand :=
    if 2 * rest < den * step then whole
    else if den * step < 2 * rest then whole + 1
    else whole + whole % 2
  significand * step

theorem div_excess_lt (n : Nat) : n / Nat.pow 2 (excessBits n) < Nat.pow 2 53 := by
  rw [Nat.pow_eq, Nat.pow_eq, Nat.div_lt_iff_lt_mul (Nat.two_pow_pos _), ← Nat.pow_add]
  refine Nat.lt_of_lt_of_le Nat.lt_log2_self (Nat.pow_le_pow_right (by decide) ?_)
  unfold excessBits
  omega

/-- Rounding always yields a magnitude of the format. -/
theorem fits_roundToSignificand (num den : Nat) : FitsSignificand (roundToSignificand num den) := by
  have h : num / (den * Nat.pow 2 (excessBits (num / den))) < Nat.pow 2 53 := by
    rw [← Nat.div_div_eq_div_mul]
    exact div_excess_lt _
  refine ⟨_, excessBits (num / den), ?_, rfl⟩
  split
  · omega
  · split <;> omega

/-- A power of two, in units. -/
def unitsOfTwo (exponent : Nat) : Nat := Nat.pow 2 (exponent + 1074)

theorem unitsOfTwo_pos (exponent : Nat) : 0 < unitsOfTwo exponent :=
  Nat.two_pow_pos _

/-- The magnitudes from 2¹⁰²⁴ on are beyond the format, in units. -/
def overflowUnits : Nat := unitsOfTwo 1024

/-- The number one, in units. -/
def unitsPerOne : Nat := unitsOfTwo 0

/-- A binary64 number: not a number, an infinity, or a signed magnitude in
units of 2⁻¹⁰⁷⁴. -/
inductive Binary64 where
  /-- The result of an operation without a meaning. -/
  | nan
  /-- Beyond every finite number. -/
  | infinite (negative : Bool)
  /-- A sign and a magnitude; zero has two signs. -/
  | finite (negative : Bool) (units : Nat) (fits : FitsSignificand units)
      (bounded : units < overflowUnits)
  deriving DecidableEq

namespace Binary64

/-- The magnitude `num / den` (in units) with a sign, rounded once; beyond the
greatest finite number it is infinite. -/
def ofFraction (negative : Bool) (num den : Nat) : Binary64 :=
  if h : roundToSignificand num den < overflowUnits then
    .finite negative (roundToSignificand num den) (fits_roundToSignificand num den) h
  else .infinite negative

/-- The zero of the given sign. -/
def zero (negative : Bool) : Binary64 :=
  .finite negative 0 ⟨0, 0, by decide, by decide⟩ (unitsOfTwo_pos 1024)

instance : Inhabited Binary64 := ⟨zero false⟩

/-- The number nearest to an integer. -/
def ofInt (n : Int) : Binary64 :=
  ofFraction (n < 0) (n.natAbs * unitsPerOne) 1

/-- The quotient of two integers, rounded once; `den` is positive. -/
def ofRatio (num : Int) (den : Nat) : Binary64 :=
  ofFraction (num < 0) (num.natAbs * unitsPerOne) den

/-- Not a number. -/
def isNaN : Binary64 → Bool
  | nan => true
  | _ => false

/-- Neither infinite nor NaN. -/
def isFinite : Binary64 → Bool
  | finite .. => true
  | _ => false

/-- Zero of either sign. -/
def isZero : Binary64 → Bool
  | finite _ units _ _ => units == 0
  | _ => false

/-- The signed number of units of a finite number. -/
def signedUnits (negative : Bool) (units : Nat) : Int :=
  if negative then -(units : Int) else units

/-! ## Order -/

/-- The units of a number, by which numbers are ordered; those of the infinities
are beyond all finite numbers. -/
def rank : Binary64 → Int
  | nan => 0
  | infinite negative => signedUnits negative overflowUnits
  | finite negative units _ _ => signedUnits negative units

/-- The order of two numbers; nothing is ordered with NaN, and the two zeros
are equal. -/
def order? : Binary64 → Binary64 → Option Ordering
  | nan, _ => none
  | _, nan => none
  | infinite a, infinite b => some (compare b.toNat a.toNat)
  | infinite a, finite .. => some (if a then .lt else .gt)
  | finite .., infinite b => some (if b then .gt else .lt)
  | finite a x _ _, finite b y _ _ => some (compare (signedUnits a x) (signedUnits b y))

/-- The exact order of a number and an integer. -/
def orderToInt? : Binary64 → Int → Option Ordering
  | nan, _ => none
  | infinite a, _ => some (if a then .lt else .gt)
  | finite a x _ _, n => some (compare (signedUnits a x) (n * unitsPerOne))

/-- Below; NaN is below nothing. -/
def lt (a b : Binary64) : Bool := order? a b == some .lt

/-- Above; NaN is above nothing. -/
def gt (a b : Binary64) : Bool := order? a b == some .gt

/-- At or below; NaN is not even at itself. -/
def le (a b : Binary64) : Bool := order? a b == some .lt || order? a b == some .eq

/-- The lesser of the two; the first where they are equal or unordered. -/
def min (a b : Binary64) : Binary64 := if b.lt a then b else a

/-- The greater of the two; the first where they are equal or unordered. -/
def max (a b : Binary64) : Binary64 := if b.gt a then b else a

/-! ## Arithmetic -/

/-- The other sign. -/
def neg : Binary64 → Binary64
  | nan => nan
  | infinite negative => infinite !negative
  | finite negative units fits bounded => finite (!negative) units fits bounded

/-- The exact sum, rounded once; an exact zero is negative only when both
terms are. -/
def add : Binary64 → Binary64 → Binary64
  | nan, _ => nan
  | _, nan => nan
  | infinite a, infinite b => if a == b then infinite a else nan
  | infinite a, finite .. => infinite a
  | finite .., infinite b => infinite b
  | finite a x _ _, finite b y _ _ =>
    let sum := signedUnits a x + signedUnits b y
    if sum = 0 then zero (a && b) else ofFraction (sum < 0) sum.natAbs 1

/-- The difference, rounded once. -/
def sub (a b : Binary64) : Binary64 := add a b.neg

/-- The exact product, rounded once. -/
def mul : Binary64 → Binary64 → Binary64
  | nan, _ => nan
  | _, nan => nan
  | infinite a, infinite b => infinite (a != b)
  | infinite a, finite b y _ _ => if y = 0 then nan else infinite (a != b)
  | finite a x _ _, infinite b => if x = 0 then nan else infinite (a != b)
  | finite a x _ _, finite b y _ _ => ofFraction (a != b) (x * y) unitsPerOne

/-- The exact quotient, rounded once. -/
def div : Binary64 → Binary64 → Binary64
  | nan, _ => nan
  | _, nan => nan
  | infinite _, infinite _ => nan
  | infinite a, finite b _ _ _ => infinite (a != b)
  | finite a _ _ _, infinite b => zero (a != b)
  | finite a x _ _, finite b y _ _ =>
    if y = 0 then (if x = 0 then nan else infinite (a != b))
    else ofFraction (a != b) (x * unitsPerOne) y

instance : Neg Binary64 := ⟨neg⟩
instance : Add Binary64 := ⟨add⟩
instance : Sub Binary64 := ⟨sub⟩
instance : Mul Binary64 := ⟨mul⟩
instance : Div Binary64 := ⟨div⟩

/-! ## Whole numbers -/

/-- A finite number cut to an integer, toward zero. -/
def truncate? : Binary64 → Option Int
  | finite negative units _ _ => some (signedUnits negative (units / unitsPerOne))
  | _ => none

/-- The least integer that is not below a finite number. -/
def ceiling? : Binary64 → Option Int
  | finite negative units _ _ =>
    some (if negative then -((units / unitsPerOne : Nat) : Int)
      else ((units + unitsPerOne - 1) / unitsPerOne : Nat))
  | _ => none

/-- The integer nearest to a finite number; a half goes to the even one. -/
def roundEven? : Binary64 → Option Int
  | finite negative units _ _ =>
    let whole := units / unitsPerOne
    let rest := units % unitsPerOne
    let nearest :=
      if 2 * rest < unitsPerOne then whole
      else if unitsPerOne < 2 * rest then whole + 1
      else whole + whole % 2
    some (signedUnits negative nearest)
  | _ => none

/-- What a finite number leaves after the whole part, with its sign. -/
def fractionalPart : Binary64 → Binary64
  | finite negative units _ _ => ofFraction negative (units % unitsPerOne) 1
  | x => x

end Binary64

end PipeQuery
