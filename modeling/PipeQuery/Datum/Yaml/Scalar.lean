import PipeQuery.Datum.Basic

/-!
# YAML scalars

What a scalar without quotes stands for: nothing, a flag, a number, or its own
text.
-/

namespace PipeQuery.Yaml

/-- The words for nothing. -/
def nullWords : List String := ["", "~", "null", "Null", "NULL"]

/-- The words for a flag that is set. -/
def trueWords : List String :=
  ["yes", "Yes", "YES", "true", "True", "TRUE", "on", "On", "ON"]

/-- The words for a flag that is not set. -/
def falseWords : List String :=
  ["no", "No", "NO", "false", "False", "FALSE", "off", "Off", "OFF"]

/-- Words that have a meaning of their own only in keys. -/
def reservedWords : List String := ["<<", "="]

/-- What stands in whole numbers. -/
def isDigitOrLowLine (c : Char) : Bool := c.isDigit || c == '_'

/-- The value of a digit in bases up to sixteen. -/
def digitValue (c : Char) : Nat :=
  if c.isDigit then c.toNat - 0x30 else c.toLower.toNat - 0x57

/-- The number that digits spell in a base, without their low lines. -/
def spelled (base : Nat) (cs : List Char) : Nat :=
  (cs.filter (· != '_')).foldl (fun n c => base * n + digitValue c) 0

/-- Parts between colons as a number in base sixty. -/
def sixties (parts : List Nat) : Nat := parts.foldl (fun n d => 60 * n + d) 0

/-- One or two digits below sixty. -/
def isSixtieth (cs : List Char) : Bool :=
  match cs with
  | [a] => a.isDigit
  | [a, b] => '0' ≤ a && a ≤ '5' && b.isDigit
  | _ => false

/-- Digits that do not start with zero. -/
def isLeading (cs : List Char) : Bool :=
  cs.head?.any (fun c => c.isDigit && c != '0') && cs.all isDigitOrLowLine

/-- The magnitude of a whole number: in base two, eight, ten or sixteen, or in
parts of base sixty. -/
def wholeNumber? (cs : List Char) : Option Nat :=
  match cs with
  | ['0'] => some 0
  | '0' :: 'b' :: rest =>
    if !rest.isEmpty && rest.all fun c => c == '0' || c == '1' || c == '_' then
      some (spelled 2 rest) else none
  | '0' :: 'x' :: rest =>
    if !rest.isEmpty && rest.all fun c =>
        isDigitOrLowLine c || ('a' ≤ c.toLower && c.toLower ≤ 'f') then
      some (spelled 16 rest) else none
  | '0' :: rest =>
    if rest.all fun c => ('0' ≤ c && c ≤ '7') || c == '_' then some (spelled 8 rest) else none
  | _ =>
    match Text.splitOn ':' cs with
    | first :: rest =>
      if isLeading first && rest.all isSixtieth then
        some (sixties ((first :: rest).map (spelled 10))) else none
    | [] => none

/-- An exponent with a sign. -/
def isExponent (cs : List Char) : Bool :=
  match cs with
  | [] => true
  | e :: sign :: digits =>
    (e == 'e' || e == 'E') && (sign == '+' || sign == '-') && !digits.isEmpty
      && digits.all Char.isDigit
  | _ => false

/-- A number with a point and perhaps an exponent. -/
def isPointNumber (signed : Bool) (cs : List Char) : Bool :=
  match Text.cutAt? '.' cs with
  | none => false
  | some (whole, rest) =>
    let places := rest.takeWhile isDigitOrLowLine
    let exponent := rest.drop places.length
    isExponent exponent &&
      (if whole.isEmpty then !signed && places.head?.any Char.isDigit
        else whole.head?.any Char.isDigit && whole.all isDigitOrLowLine)

/-- Parts of base sixty, the last with a point. -/
def sixtyPoint? (cs : List Char) : Option Binary64 :=
  match Text.cutAt? '.' cs with
  | none => none
  | some (whole, places) =>
    match Text.splitOn ':' whole with
    | first :: second :: rest =>
      if first.head?.any Char.isDigit && first.all isDigitOrLowLine
          && (second :: rest).all isSixtieth && places.all isDigitOrLowLine then
        let last := ((second :: rest).getLast?.getD []) ++ '.' :: places.filter (· != '_')
        (readBinary64? last).map fun x =>
          x + .ofInt (60 * sixties (((first :: second :: rest).dropLast).map (spelled 10)))
      else none
    | _ => none

/-- The magnitude of a number with a point. -/
def pointNumber? (signed : Bool) (cs : List Char) : Option Binary64 :=
  let word := String.ofList cs
  if [".inf", ".Inf", ".INF"].contains word then some (.infinite false)
  else if !signed && [".nan", ".NaN", ".NAN"].contains word then some .nan
  else if isPointNumber signed cs then readBinary64? (cs.filter (· != '_'))
  else sixtyPoint? cs

/-- A number with or without a sign. -/
def number? (cs : List Char) : Option Number :=
  let signed := cs.head? == some '-' || cs.head? == some '+'
  let (negative, body) := splitSign cs
  match pointNumber? signed body with
  | some x => some (.binary (if negative then -x else x))
  | none => (wholeNumber? body).map fun (n : Nat) => .integer (if negative then -(n : Int) else n)

/-- The value of a scalar without quotes; some words have none. -/
def plainValue? (text : String) : Option Datum :=
  if reservedWords.contains text then none
  else if nullWords.contains text then some .null
  else if trueWords.contains text then some (.flag true)
  else if falseWords.contains text then some (.flag false)
  else match number? text.toList with
    | some n => some (.number n)
    | none => some (.text text)

end PipeQuery.Yaml
