import PipeQuery.Number.Binary64
import PipeQuery.Text.Blank
import PipeQuery.Text.Digits

/-!
# Reading decimal numbers

A text is read as a number when it is, between blanks, a sign, digits of any
script with a decimal point, and an exponent; or one of the words for infinity
and NaN.  A low line may stand between two digits.  The number read is the
binary64 number nearest to the decimal one (`Binary64.ofDecimal`).
-/

namespace PipeQuery

/-- `digits · 10 ^ exponent`. -/
structure Decimal where
  digits : Nat
  exponent : Int
  deriving DecidableEq, Inhabited

/-- The number of decimal digits of `n`. -/
def decimalLength (n : Nat) : Nat := (Nat.toDigits 10 n).length

/-- The number that a list of decimal digits spells. -/
def ofDigits (digits : List Nat) : Nat := digits.foldl (fun n d => 10 * n + d) 0

/-- The binary64 number nearest to a decimal one.  Above 10³¹⁰ all is
infinite and below 10⁻³³⁰ all is zero, whatever the digits. -/
def Binary64.ofDecimal (negative : Bool) (d : Decimal) : Binary64 :=
  if d.digits = 0 then zero negative
  else if 310 < d.exponent + decimalLength d.digits then .infinite negative
  else if d.exponent + decimalLength d.digits < -330 then zero negative
  else match d.exponent with
    | .ofNat e => ofFraction negative (d.digits * Nat.pow 10 e * unitsPerOne) 1
    | .negSucc e => ofFraction negative (d.digits * unitsPerOne) (Nat.pow 10 (e + 1))

/-! ## Plain form -/

/-- Blanks and digits of any script in their ASCII form; what is neither and
not ASCII becomes a question mark, which no number holds. -/
def plainChar (c : Char) : Char :=
  if c.toNat < 0x7f then c
  else if Text.isBlank c then ' '
  else match Text.decimalValue? c with
    | some d => Char.ofNat (0x30 + d)
    | none => '?'

/-- The text in plain characters, without ASCII blanks at the ends. -/
def plainText (cs : List Char) : List Char :=
  Text.trimWhile Text.isAsciiBlank (cs.map plainChar)

/-- Every low line stands between two digits; `last` is the character before. -/
def lowLinesJoinDigits (last : Char) : List Char → Bool
  | [] => last != '_'
  | c :: rest =>
    (if c == '_' then last.isDigit else last != '_' || c.isDigit) && lowLinesJoinDigits c rest

/-- The text without low lines, if each of them stands between two digits. -/
def withoutLowLines? (cs : List Char) : Option (List Char) :=
  if lowLinesJoinDigits ' ' cs then some (cs.filter (· != '_')) else none

/-- The sign in front of a text, if any, and the rest. -/
def splitSign : List Char → Bool × List Char
  | '-' :: rest => (true, rest)
  | '+' :: rest => (false, rest)
  | cs => (false, cs)

/-- The value of an ASCII digit. -/
def digitOf (c : Char) : Nat := c.toNat - 0x30

/-- The leading ASCII digits of a text and the rest. -/
def splitDigits (cs : List Char) : List Nat × List Char :=
  ((cs.takeWhile Char.isDigit).map digitOf, cs.dropWhile Char.isDigit)

/-! ## Integers -/

/-- Why a text is no integer. -/
inductive IntegerFault where
  /-- Not a sign and digits. -/
  | malformed
  /-- More digits than are accepted. -/
  | tooLong (digits : Nat)
  deriving DecidableEq

/-- The greatest number of digits that a whole number is read or written with. -/
def maxIntegerDigits : Nat := 4300

/-- Reads a whole number. -/
def readInteger (cs : List Char) : Except IntegerFault Int :=
  match splitSign (plainText cs) with
  | (negative, body) =>
    match withoutLowLines? body with
    | none => .error .malformed
    | some digits =>
      if digits.isEmpty || !digits.all Char.isDigit then .error .malformed
      else if maxIntegerDigits < digits.length then .error (.tooLong digits.length)
      else
        let n : Int := ofDigits (digits.map digitOf)
        .ok (if negative then -n else n)

/-! ## Binary64 numbers -/

/-- The exponent that ends a number: nothing, or `e`, a sign and digits. -/
def readExponent? : List Char → Option Int
  | [] => some 0
  | c :: rest =>
    if c == 'e' || c == 'E' then
      match splitSign rest with
      | (negative, body) =>
        match splitDigits body with
        | ([], _) => none
        | (digits, []) =>
          let n : Int := ofDigits digits
          some (if negative then -n else n)
        | (_, _ :: _) => none
    else none

/-- An unsigned decimal number in plain characters. -/
def readDecimal? (cs : List Char) : Option Decimal :=
  match splitDigits cs with
  | (whole, '.' :: rest) =>
    match splitDigits rest with
    | (places, ending) =>
      if whole.isEmpty && places.isEmpty then none
      else (readExponent? ending).map fun e =>
        ⟨ofDigits (whole ++ places), e - places.length⟩
  | (whole, ending) =>
    if whole.isEmpty then none
    else (readExponent? ending).map fun e => ⟨ofDigits whole, e⟩

/-- Reads a number or one of the words `inf`, `infinity` and `nan`. -/
def readBinary64? (cs : List Char) : Option Binary64 :=
  match withoutLowLines? (plainText cs) with
  | none => none
  | some plain =>
    match splitSign plain with
    | (negative, body) =>
      let word := body.map Char.toLower
      if word == ['i', 'n', 'f'] || word == ['i', 'n', 'f', 'i', 'n', 'i', 't', 'y'] then
        some (.infinite negative)
      else if word == ['n', 'a', 'n'] then some .nan
      else (readDecimal? body).map (Binary64.ofDecimal negative)

end PipeQuery
