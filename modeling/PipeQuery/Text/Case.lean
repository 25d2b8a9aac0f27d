import PipeQuery.Text.CaseTables

/-!
# Letter case

Lower, upper and title case of whole texts.  A character may become several
(`ß` is `SS` in upper case), and a capital sigma has two lower forms, the
final one at the end of a word.
-/

namespace PipeQuery.Text

/-- The image of a code point under a table of runs; itself when no run has it. -/
def mapByRuns (runs : List CaseRun) (code : Nat) : Nat :=
  match runs.find? fun r =>
      r.first ≤ code && code ≤ r.last && (code - r.first) % r.step == 0 with
  | some r => ((code : Int) + r.shift).toNat
  | none => code

/-- The single lower-case code point of a code point. -/
def lowerCode (code : Nat) : Nat :=
  if code < 0x80 then (if 0x41 ≤ code && code ≤ 0x5a then code + 32 else code)
  else mapByRuns lowerRuns code

/-- The upper case of a character, one or more characters. -/
def upperChar (c : Char) : List Char :=
  match upperSequences.lookup c.toNat with
  | some codes => codes.map Char.ofNat
  | none => [Char.ofNat (mapByRuns upperRuns c.toNat)]

/-- The title case of a character, one or more characters. -/
def titleChar (c : Char) : List Char :=
  match titleSequences.lookup c.toNat with
  | some codes => codes.map Char.ofNat
  | none => if titleFixedRanges.contains c then [c] else upperChar c

/-- Upper, lower or title case, not a character without case. -/
def isCased (c : Char) : Bool := casedRanges.contains c

/-- Passed over when the case around it is looked at. -/
def isCaseIgnorable (c : Char) : Bool := caseIgnorableRanges.contains c

/-- The nearest character that is not case-ignorable is cased. -/
def nextIsCased (cs : List Char) : Bool :=
  match cs.dropWhile isCaseIgnorable with
  | [] => false
  | c :: _ => isCased c

/-- The lower case of a character between the ones `before` it (nearest first)
and the ones `after` it. -/
def lowerCharIn (before : List Char) (c : Char) (after : List Char) : List Char :=
  if c == 'Σ' then
    if nextIsCased before && !nextIsCased after then ['ς'] else ['σ']
  else if c == 'İ' then ['i', '\u0307']
  else [Char.ofNat (lowerCode c.toNat)]

/-- Lowers what follows the characters `before` (nearest first). -/
def lowerAfter (before : List Char) : List Char → List Char
  | [] => []
  | c :: rest => lowerCharIn before c rest ++ lowerAfter (c :: before) rest

/-- The whole text in lower case. -/
def lowerChars (cs : List Char) : List Char := lowerAfter [] cs

/-- The text in small letters. -/
def lower (s : String) : String := String.ofList (lowerChars s.toList)

/-- The whole text in upper case. -/
def upper (s : String) : String := String.ofList (s.toList.flatMap upperChar)

/-- Title case of what follows the characters `before` (nearest first): a
letter after a cased one is lowered, any other takes its title case. -/
def titleAfter (before : List Char) : List Char → List Char
  | [] => []
  | c :: rest =>
    let image :=
      match before with
      | p :: _ => if isCased p then lowerCharIn before c rest else titleChar c
      | [] => titleChar c
    image ++ titleAfter (c :: before) rest

/-- Every word of the text starts with a capital and goes on in lower case. -/
def title (s : String) : String := String.ofList (titleAfter [] s.toList)

end PipeQuery.Text
