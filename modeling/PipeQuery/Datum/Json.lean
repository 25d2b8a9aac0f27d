import PipeQuery.Datum.Basic
import PipeQuery.Fault

/-!
# Reading JSON

JSON with the words `NaN`, `Infinity` and `-Infinity`.  A number with a point
or an exponent is a binary64 number, any other is whole.  A key that comes
again keeps its first place and its last value.

The readers take the text that is left and give what they read with the rest.
They get `fuel` for one more step than there are characters, and take a
character in every step but the last.
-/

namespace PipeQuery.Json

/-- What a reader gives: a value and the text behind it. -/
abbrev Reading (α : Type) := Except Fault (α × List Char)

/-- The text is no JSON. -/
def malformed {α : Type} : Except Fault α := .error (.shape .malformedJson)

/-- The white space between values. -/
def isSpace (c : Char) : Bool := c == ' ' || c == '\t' || c == '\n' || c == '\r'

/-- The text behind its leading blanks. -/
def skipSpace (cs : List Char) : List Char := cs.dropWhile isSpace

/-! ## Texts -/

/-- The value of a hexadecimal digit. -/
def hexValue? (c : Char) : Option Nat :=
  if c.isDigit then some (c.toNat - 0x30)
  else if 'a' ≤ c && c ≤ 'f' then some (c.toNat - 0x57)
  else if 'A' ≤ c && c ≤ 'F' then some (c.toNat - 0x37)
  else none

/-- Four hexadecimal digits. -/
def unit? : List Char → Option (Nat × List Char)
  | a :: b :: c :: d :: rest => do
    let a ← hexValue? a
    let b ← hexValue? b
    let c ← hexValue? c
    let d ← hexValue? d
    return (((a * 16 + b) * 16 + c) * 16 + d, rest)
  | _ => none

/-- The first unit of a character beyond 16 bits. -/
def isHighUnit (n : Nat) : Bool := 0xd800 ≤ n && n < 0xdc00

/-- The second unit of a character beyond 16 bits. -/
def isLowUnit (n : Nat) : Bool := 0xdc00 ≤ n && n < 0xe000

/-- What stands for half of a pair without the other half. -/
def replacement : Char := '\ufffd'

/-- The character of a unit, or of a pair of units if the next escape completes
it. -/
def unitChar (n : Nat) (rest : List Char) : Char × List Char :=
  if isHighUnit n then
    match rest with
    | '\\' :: 'u' :: behind =>
      match unit? behind with
      | some (low, after) =>
        if isLowUnit low then
          (Char.ofNat (0x10000 + (n - 0xd800) * 0x400 + (low - 0xdc00)), after)
        else (replacement, rest)
      | none => (replacement, rest)
    | _ => (replacement, rest)
  else if isLowUnit n then (replacement, rest)
  else (Char.ofNat n, rest)

/-- The characters of the one-letter escapes. -/
def escapes : List (Char × Char) :=
  [('"', '"'), ('\\', '\\'), ('/', '/'), ('b', '\x08'), ('f', '\x0c'), ('n', '\n'), ('r', '\r'),
    ('t', '\t')]

/-- The rest of a text up to its closing quote; `read` holds, in reverse, what
has been read. -/
def text (fuel : Nat) (read : List Char) (cs : List Char) : Reading String :=
  match fuel, cs with
  | _, [] => malformed
  | 0, _ => malformed
  | _ + 1, '"' :: rest => .ok (String.ofList read.reverse, rest)
  | fuel + 1, '\\' :: 'u' :: rest =>
    match unit? rest with
    | none => malformed
    | some (n, behind) =>
      match unitChar n behind with
      | (c, after) => text fuel (c :: read) after
  | fuel + 1, '\\' :: e :: rest =>
    match escapes.lookup e with
    | none => malformed
    | some c => text fuel (c :: read) rest
  | fuel + 1, c :: rest =>
    if c == '\\' || c.toNat < 0x20 then malformed else text fuel (c :: read) rest

/-! ## Numbers -/

/-- The whole part of a number: zero, or digits that do not start with it. -/
def wholePart (cs : List Char) : List Char :=
  match cs with
  | '0' :: _ => ['0']
  | _ => cs.takeWhile Char.isDigit

/-- A point with digits behind it, if it is there. -/
def placesPart : List Char → List Char
  | '.' :: rest =>
    let digits := rest.takeWhile Char.isDigit
    if digits.isEmpty then [] else '.' :: digits
  | _ => []

/-- A sign, if it is there. -/
def signPart : List Char → List Char
  | '+' :: _ => ['+']
  | '-' :: _ => ['-']
  | _ => []

/-- An exponent, if it is there. -/
def exponentPart : List Char → List Char
  | c :: rest =>
    let sign := signPart rest
    let digits := (rest.drop sign.length).takeWhile Char.isDigit
    if (c == 'e' || c == 'E') && !digits.isEmpty then c :: sign ++ digits else []
  | [] => []

/-- An unsigned number, with the sign that stands before it. -/
def number (sign cs : List Char) : Reading Datum :=
  let whole := wholePart cs
  if whole.isEmpty then malformed
  else
    let behindWhole := cs.drop whole.length
    let places := placesPart behindWhole
    let exponent := exponentPart (behindWhole.drop places.length)
    let rest := (behindWhole.drop places.length).drop exponent.length
    if places.isEmpty && exponent.isEmpty then
      match readInteger (sign ++ whole) with
      | .ok n => .ok (.integer n, rest)
      | .error fault => .error (.integer (String.ofList (sign ++ whole)) fault)
    else
      match readBinary64? (sign ++ whole ++ places ++ exponent) with
      | some x => .ok (.binary x, rest)
      | none => malformed

/-! ## Values -/

/-- The words and what they stand for. -/
def wordValues : List (List Char × Datum) :=
  [("null".toList, .null), ("true".toList, .flag true), ("false".toList, .flag false),
    ("NaN".toList, .binary .nan), ("Infinity".toList, .binary (.infinite false)),
    ("-Infinity".toList, .binary (.infinite true))]

/-- A word or a number. -/
def scalar (cs : List Char) : Reading Datum :=
  match wordValues.find? fun w => w.1.isPrefixOf cs with
  | some (word, value) => .ok (value, cs.drop word.length)
  | none =>
    match cs with
    | '-' :: rest => number ['-'] rest
    | _ => number [] cs

mutual

/-- A value at the start of the text. -/
def value (fuel : Nat) (cs : List Char) : Except Fault (Datum × List Char) :=
  match fuel, cs with
  | 0, _ => malformed
  | fuel + 1, '"' :: rest => do
    let (s, rest) ← text fuel [] rest
    return (.text s, rest)
  | fuel + 1, '[' :: rest =>
    match skipSpace rest with
    | ']' :: rest => .ok (.list [], rest)
    | rest => do
      let (items, rest) ← items fuel rest
      return (.list items, rest)
  | fuel + 1, '\x7b' :: rest =>
    match skipSpace rest with
    | '\x7d' :: rest => .ok (.mapping [], rest)
    | rest => do
      let (entries, rest) ← entries fuel rest
      return (.mapping (Datum.settle entries), rest)
  | _ + 1, cs => scalar cs

/-- Values between commas, up to the closing bracket. -/
def items (fuel : Nat) (cs : List Char) : Except Fault (List Datum × List Char) :=
  match fuel with
  | 0 => malformed
  | fuel + 1 => do
    let (item, rest) ← value fuel cs
    match skipSpace rest with
    | ']' :: rest => return ([item], rest)
    | ',' :: rest =>
      let (others, rest) ← items fuel (skipSpace rest)
      return (item :: others, rest)
    | _ => malformed

/-- Keys with values between commas, up to the closing brace. -/
def entries (fuel : Nat) (cs : List Char) :
    Except Fault (List (Datum × Datum) × List Char) :=
  match fuel, cs with
  | fuel + 1, '"' :: rest => do
    let (key, rest) ← text fuel [] rest
    match skipSpace rest with
    | ':' :: rest =>
      let (value, rest) ← value fuel (skipSpace rest)
      match skipSpace rest with
      | '\x7d' :: rest => return ([(.text key, value)], rest)
      | ',' :: rest =>
        let (others, rest) ← entries fuel (skipSpace rest)
        return ((.text key, value) :: others, rest)
      | _ => malformed
    | _ => malformed
  | _, _ => malformed

end

/-- Reads a text that is one value. -/
def read (cs : List Char) : Except Fault Datum := do
  let (datum, rest) ← value (cs.length + 1) (skipSpace cs)
  if (skipSpace rest).isEmpty then return datum else malformed

end PipeQuery.Json
