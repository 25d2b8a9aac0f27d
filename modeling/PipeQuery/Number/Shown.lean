import PipeQuery.Number.Decimal

/-!
# Writing numbers

The decimal digits of a binary64 number and the forms they are written in:
the fewest digits that read back (`Binary64.shortest`, written by
`Binary64.shown`), six significant digits (`Binary64.sixDigits`), and a fixed
number of places (`Binary64.fixed`).
-/

namespace PipeQuery

/-- The text of a whole number, however many digits it has. -/
def shownInt (n : Int) : String :=
  if n < 0 then "-" ++ String.ofList (Nat.toDigits 10 n.natAbs)
  else String.ofList (Nat.toDigits 10 n.natAbs)

namespace Binary64

/-! ## Digits -/

/-- The number of digits before the point: `p` with `10ᵖ⁻¹ ≤ v < 10ᵖ` for the
positive value `v` of so many units. -/
def pointOf (units : Nat) : Int :=
  (decimalLength (units * Nat.pow 10 324 / unitsPerOne) : Int) - 324

/-- The value of so many units, divided by ten to the power `place`, as a
fraction. -/
def scaled (units : Nat) (place : Int) : Nat × Nat :=
  match place with
  | .ofNat e => (units, unitsPerOne * Nat.pow 10 e)
  | .negSucc e => (units * Nat.pow 10 (e + 1), unitsPerOne)

/-- The nearest whole multiple of ten to the power `place`; a half goes to the
even one. -/
def roundedAt (units : Nat) (place : Int) : Decimal :=
  match scaled units place with
  | (num, den) =>
    let whole := num / den
    let rest := num % den
    ⟨if 2 * rest < den then whole else if den < 2 * rest then whole + 1 else whole + whole % 2,
      place⟩

/-- The decimal number reads as the positive number of so many units. -/
def readsAs (units : Nat) (d : Decimal) : Bool :=
  match ofDecimal false d with
  | finite _ u _ _ => u == units
  | _ => false

/-- The decimal number with at most `n` digits nearest to the value, among
those that read back: one of the two neighbours of the value on the grid of
`n` digits. -/
def ofLength? (units : Nat) (n : Nat) : Option Decimal :=
  let place := pointOf units - n
  match scaled units place with
  | (num, den) =>
    let below : Decimal := ⟨num / den, place⟩
    let above : Decimal := ⟨num / den + 1, place⟩
    let rest := num % den
    let preferBelow := 2 * rest < den || (2 * rest == den && below.digits % 2 == 0)
    match readsAs units below, readsAs units above with
    | true, true => some (if preferBelow then below else above)
    | true, false => some below
    | false, true => some above
    | false, false => none

/-- All the digits of the value. -/
def exactDecimal (units : Nat) : Decimal := ⟨units * Nat.pow 5 1074, -1074⟩

/-- The decimal number with the fewest digits that reads back. -/
def shortest (units : Nat) : Decimal :=
  ((List.range 17).findSome? fun k => ofLength? units (k + 1)).getD (exactDecimal units)

/-! ## Layout -/

/-- How digits are laid out. -/
structure Layout where
  /-- The least number of digits before the point that is written without exponent. -/
  least : Int
  /-- The greatest such number. -/
  greatest : Int
  /-- A whole number ends in `.0`. -/
  keepsPoint : Bool

/-- The full form of a number: without exponent from 0.0001 to below 10¹⁶. -/
def fullLayout : Layout := ⟨-3, 16, true⟩

/-- The short form: without exponent from 0.0001 to below 10⁶. -/
def sixDigitLayout : Layout := ⟨-3, 6, false⟩

/-- An exponent with its sign and at least two digits. -/
def shownExponent (e : Int) : List Char :=
  let digits := Nat.toDigits 10 e.natAbs
  'e' :: (if e < 0 then '-' else '+') :: (List.replicate (2 - digits.length) '0' ++ digits)

/-- The digits of a number without the zeros at its end, and the number of
digits before the point. -/
def significant (d : Decimal) : List Char × Int :=
  let digits := Nat.toDigits 10 d.digits
  (Text.dropEndWhile (· == '0') digits, d.exponent + digits.length)

/-- Lays a positive decimal number out. -/
def Layout.write (layout : Layout) (d : Decimal) : List Char :=
  match significant d with
  | (digits, point) =>
    if point < layout.least || layout.greatest < point then
      match digits with
      | [] => []
      | first :: [] => first :: shownExponent (point - 1)
      | first :: rest => first :: '.' :: (rest ++ shownExponent (point - 1))
    else if point ≤ 0 then
      '0' :: '.' :: (List.replicate (-point).toNat '0' ++ digits)
    else
      let whole := digits.take point.toNat
      let places := digits.drop point.toNat
      whole ++ List.replicate (point.toNat - digits.length) '0' ++
        (if places.isEmpty then (if layout.keepsPoint then ['.', '0'] else [])
          else '.' :: places)

/-- Zero in a layout. -/
def Layout.zero (layout : Layout) : List Char :=
  if layout.keepsPoint then ['0', '.', '0'] else ['0']

/-- A minus sign if the number is negative. -/
def withSign (negative : Bool) (cs : List Char) : String :=
  String.ofList (if negative then '-' :: cs else cs)

/-- Writes a number in a layout, with the digits that `digits` chooses. -/
def written (layout : Layout) (digits : Nat → Decimal) : Binary64 → String
  | nan => "nan"
  | infinite negative => withSign negative ['i', 'n', 'f']
  | finite negative units _ _ =>
    withSign negative (if units = 0 then layout.zero else layout.write (digits units))

/-- The full form: the fewest digits that read back. -/
def shown (x : Binary64) : String := written fullLayout shortest x

/-- The short form: six significant digits. -/
def sixDigits (x : Binary64) : String :=
  written sixDigitLayout (fun units => roundedAt units (pointOf units - 6)) x

/-- A number with exactly `places` digits after the point. -/
def fixed (places : Nat) : Binary64 → String
  | nan => "nan"
  | infinite negative => withSign negative ['i', 'n', 'f']
  | finite negative units _ _ =>
    let digits := Nat.toDigits 10 (roundedAt units (-(places : Int))).digits
    let padded := List.replicate (places + 1 - digits.length) '0' ++ digits
    let whole := padded.take (padded.length - places)
    withSign negative (if places = 0 then whole
      else whole ++ '.' :: padded.drop (padded.length - places))

/-- The number rounded to `places` digits after the point. -/
def roundPlaces (places : Nat) : Binary64 → Binary64
  | finite negative units _ _ => ofDecimal negative (roundedAt units (-(places : Int)))
  | x => x

end Binary64

end PipeQuery
