import PipeQuery.Datum.Yaml.Cursor
import PipeQuery.Datum.Json

/-!
# YAML tokens

The marks and scalars that a YAML text is made of.  Where a block of a
collection starts and ends is told by indentation and becomes a token of its
own; a key is found when its colon is, and its token is put before it.
-/

namespace PipeQuery.Yaml

/-- A token. -/
inductive Token where
  | blockSequence
  | blockMapping
  | blockEnd
  | blockEntry
  | flowSequence
  | flowSequenceEnd
  | flowMapping
  | flowMappingEnd
  | flowEntry
  | key
  | value
  /-- A scalar, and whether it stood without quotes. -/
  | scalar (text : String) (plain : Bool)
  | documentStart
  | documentEnd
  deriving DecidableEq

/-- Where a key may start that is known as one only when its colon comes. -/
structure PossibleKey where
  /-- The number of tokens before it. -/
  place : Nat
  /-- It has to be a key. -/
  required : Bool
  index : Nat
  line : Nat
  column : Nat

/-- A text with the tokens read so far. -/
structure Scan where
  cursor : Cursor
  tokens : List Token
  /-- The number of flow collections that are open. -/
  depth : Nat
  /-- The column of the open block, and those of the blocks around it. -/
  indent : Int
  outer : List Int
  keyAllowed : Bool
  /-- The possible keys by depth. -/
  keys : List (Nat × PossibleKey)

/-- A step of reading tokens. -/
abbrev Scanned := Except Fault Scan

/-- The text is no YAML. -/
def malformed {α : Type} : Except Fault α := .error (.shape .malformedYaml)

namespace Scan

/-- In front of a text. -/
def start (cs : List Char) : Scan := ⟨.start cs, [], 0, -1, [], true, []⟩

/-- One more token. -/
def emit (s : Scan) (t : Token) : Scan := { s with tokens := s.tokens ++ [t] }

/-- Some characters further on. -/
def forward (s : Scan) (n : Nat) : Scan := { s with cursor := s.cursor.forward n }

/-- Puts tokens at a place among those read. -/
def insertAt (s : Scan) (place : Nat) (ts : List Token) : Scan :=
  { s with tokens := s.tokens.take place ++ ts ++ s.tokens.drop place }

/-! ## Blocks -/

/-- Opens a block at a column beyond that of the open one. -/
def openBlock (s : Scan) (column : Int) (place : Nat) (t : Token) : Scan :=
  if s.indent < column then
    { s.insertAt place [t] with indent := column, outer := s.indent :: s.outer }
  else s

/-- Closes the blocks whose column is beyond this one. -/
def closeBlocks (column : Int) : List Int → Scan → Scan
  | [], s => s
  | previous :: outer, s =>
    if column < s.indent then
      closeBlocks column outer { s.emit .blockEnd with indent := previous, outer := outer }
    else s

/-- Closes the blocks that end before the cursor; there are none in a flow
collection. -/
def unwind (s : Scan) (column : Int) : Scan :=
  if s.depth = 0 then closeBlocks column s.outer s else s

/-! ## Keys -/

/-- Gives up the possible key at the present depth. -/
def dropKey (s : Scan) : Scanned :=
  match s.keys.lookup s.depth with
  | none => .ok s
  | some k =>
    if k.required then malformed
    else .ok { s with keys := s.keys.filter fun e => e.1 != s.depth }

/-- Remembers that a key may start here. -/
def noteKey (s : Scan) : Scanned := do
  if !s.keyAllowed then return s
  let s ← s.dropKey
  let required := s.depth = 0 && s.indent == s.cursor.column
  return { s with
    keys := (s.depth, ⟨s.tokens.length, required, s.cursor.index, s.cursor.line, s.cursor.column⟩)
      :: s.keys }

/-- The greatest length of a key that is not marked as one. -/
def maxKeyLength : Nat := 1024

/-- Gives up the possible keys on other lines, and those that are too long. -/
def dropStaleKeys (s : Scan) : Scanned :=
  let isStale (k : PossibleKey) : Bool :=
    k.line != s.cursor.line || maxKeyLength < s.cursor.index - k.index
  if s.keys.any fun e => isStale e.2 && e.2.required then malformed
  else .ok { s with keys := s.keys.filter fun e => !isStale e.2 }

/-! ## Between tokens -/

/-- Passes blanks, comments and line breaks; behind a line break a key may
start, outside flow collections. -/
def skipGaps (fuel : Nat) (s : Scan) : Scan :=
  match fuel with
  | 0 => s
  | fuel + 1 =>
    let c := s.cursor.skipWhile (· == ' ')
    let c := if c.peek == some '#' then c.skipWhile fun ch => !isBreak ch else c
    match c.peek with
    | some ch =>
      if isBreak ch then
        skipGaps fuel { s with cursor := c.newLine, keyAllowed := s.keyAllowed || s.depth = 0 }
      else { s with cursor := c }
    | none => { s with cursor := c }

/-! ## Plain scalars -/

/-- The marks of flow collections. -/
def isFlowMark (c : Char) : Bool := c == ',' || c == '[' || c == ']' || c == '\x7b' || c == '\x7d'

/-- The characters of a plain scalar up to a gap or a mark. -/
def plainRun (inFlow : Bool) : List Char → List Char
  | [] => []
  | c :: rest =>
    let ends := isGap (some c)
      || (c == ':' && (isGap rest.head? || (inFlow && rest.head?.any isFlowMark)))
      || (inFlow && (isFlowMark c || c == '?'))
    if ends then [] else c :: plainRun inFlow rest

/-- The blank lines behind a line break: their breaks, whether the mark of a
document follows, and the cursor behind them. -/
def blankLines (fuel : Nat) (c : Cursor) (breaks : List Char) : List Char × Bool × Cursor :=
  match fuel with
  | 0 => (breaks, false, c)
  | fuel + 1 =>
    let c := c.skipWhile (· == ' ')
    match c.peek with
    | some ch =>
      if isBreak ch then
        let breaks := breaks ++ [Cursor.breakText ch]
        if c.newLine.atDocumentMark then (breaks, true, c.newLine)
        else blankLines fuel c.newLine breaks
      else (breaks, false, c)
    | none => (breaks, false, c)

/-- A line break and the blank lines behind it as text: one break is a space. -/
def foldedBreaks (first : Char) (breaks : List Char) : List Char :=
  (if Cursor.breakText first != '\n' then [first] else if breaks.isEmpty then [' '] else [])
    ++ breaks

/-- What stands between two runs of a plain scalar: its text, empty if the
scalar ends; whether there is a line break; and the cursor behind it. -/
def plainGap (c : Cursor) : List Char × Bool × Cursor :=
  let blanks := c.rest.takeWhile (· == ' ')
  let c := c.forward blanks.length
  match c.peek with
  | some ch =>
    if isBreak ch then
      if c.newLine.atDocumentMark then ([], true, c.newLine)
      else
        match blankLines c.rest.length c.newLine [] with
        | (_, true, c) => ([], true, c)
        | (breaks, false, c) => (foldedBreaks ch breaks, true, c)
    else (blanks, false, c)
  | none => (blanks, false, c)

/-- The rest of a plain scalar; `gap` stands before it. -/
def plainFrom (fuel : Nat) (s : Scan) (gap text : List Char) : List Char × Scan :=
  match fuel with
  | 0 => (text, s)
  | fuel + 1 =>
    let run := plainRun (s.depth != 0) s.cursor.rest
    if s.cursor.peek == some '#' || run.isEmpty then (text, s)
    else
      let text := text ++ gap ++ run
      match plainGap (s.cursor.forward run.length) with
      | (gap, broken, c) =>
        let s := { s with cursor := c, keyAllowed := broken }
        if gap.isEmpty || c.peek == some '#' || (s.depth = 0 && (c.column : Int) < s.indent + 1)
        then (text, s)
        else plainFrom fuel s gap text

/-- Reads a plain scalar. -/
def readPlain (s : Scan) : Scanned := do
  let s ← s.noteKey
  match plainFrom (s.cursor.rest.length + 1) { s with keyAllowed := false } [] [] with
  | (text, s) => return s.emit (.scalar (String.ofList text) true)

/-! ## Quoted scalars -/

/-- The characters of the one-letter escapes. -/
def escapes : List (Char × Char) :=
  [('0', '\x00'), ('a', '\x07'), ('b', '\x08'), ('t', '\t'), ('\t', '\t'), ('n', '\n'),
    ('v', '\x0b'), ('f', '\x0c'), ('r', '\r'), ('e', '\x1b'), (' ', ' '), ('"', '"'),
    ('\\', '\\'), ('/', '/'), ('N', '\x85'), ('_', '\xa0'), ('L', '\u2028'), ('P', '\u2029')]

/-- The numbers of hexadecimal digits of the escapes by code. -/
def codeLengths : List (Char × Nat) := [('x', 2), ('u', 4), ('U', 8)]

/-- The number that hexadecimal digits spell. -/
def hexNumber? (digits : List Char) : Option Nat :=
  digits.foldl (fun n c =>
    match n, Json.hexValue? c with
    | some n, some d => some (16 * n + d)
    | _, _ => none) (some 0)

/-- Blank lines inside quotes: their breaks and the cursor behind them. -/
def quotedBreaks (fuel : Nat) (c : Cursor) (breaks : List Char) :
    Except Fault (List Char × Cursor) :=
  match fuel with
  | 0 => malformed
  | fuel + 1 =>
    if c.atDocumentMark then malformed
    else
      let c := c.skipWhile isSpaceOrTab
      match c.peek with
      | some ch =>
        if isBreak ch then quotedBreaks fuel c.newLine (breaks ++ [Cursor.breakText ch])
        else .ok (breaks, c)
      | none => .ok (breaks, c)

/-- An escape: its text and the cursor behind it. -/
def readEscape (c : Cursor) : Except Fault (List Char × Cursor) :=
  match c.peek with
  | none => malformed
  | some e =>
    match escapes.lookup e, codeLengths.lookup e with
    | some ch, _ => .ok ([ch], c.forward 1)
    | none, some n =>
      let digits := (c.forward 1).rest.take n
      match hexNumber? digits with
      | some code =>
        if digits.length = n then .ok ([Char.ofNat code], c.forward (n + 1)) else malformed
      | none => malformed
    | none, none => if isBreak e then quotedBreaks c.rest.length c.newLine [] else malformed

/-- The rest of a quoted scalar, from the characters behind its opening quote. -/
def quotedFrom (fuel : Nat) (double : Bool) (c : Cursor) (text : List Char) :
    Except Fault (List Char × Cursor) :=
  match fuel with
  | 0 => malformed
  | fuel + 1 =>
    match c.peek with
    | none => malformed
    | some ch =>
      if isSpaceOrTab ch || isBreak ch then
        let blanks := c.rest.takeWhile isSpaceOrTab
        let c := c.forward blanks.length
        match c.peek with
        | none => malformed
        | some ch =>
          if isBreak ch then do
            let (breaks, c) ← quotedBreaks c.rest.length c.newLine []
            quotedFrom fuel double c (text ++ foldedBreaks ch breaks)
          else quotedFrom fuel double c (text ++ blanks)
      else if double && ch == '\\' then do
        let (escaped, c) ← readEscape (c.forward 1)
        quotedFrom fuel double c (text ++ escaped)
      else if !double && ch == '\'' && c.ahead 1 == some '\'' then
        quotedFrom fuel double (c.forward 2) (text ++ ['\''])
      else if ch == (if double then '"' else '\'') then .ok (text, c.forward 1)
      else quotedFrom fuel double (c.forward 1) (text ++ [ch])

/-- Reads a quoted scalar. -/
def readQuoted (s : Scan) (double : Bool) : Scanned := do
  let s ← s.noteKey
  let (text, c) ← quotedFrom (s.cursor.rest.length + 1) double (s.cursor.forward 1) []
  return { s with cursor := c, keyAllowed := false }.emit (.scalar (String.ofList text) false)

/-! ## Marks -/

/-- Opens a flow collection. -/
def openFlow (s : Scan) (t : Token) : Scanned := do
  let s ← s.noteKey
  return { (s.emit t).forward 1 with depth := s.depth + 1, keyAllowed := true }

/-- Closes a flow collection. -/
def closeFlow (s : Scan) (t : Token) : Scanned := do
  let s ← s.dropKey
  if s.depth = 0 then malformed
  else return { (s.emit t).forward 1 with depth := s.depth - 1, keyAllowed := false }

/-- Reads a comma between the entries of a flow collection. -/
def readFlowEntry (s : Scan) : Scanned := do
  let s ← { s with keyAllowed := true }.dropKey
  return (s.emit .flowEntry).forward 1

/-- Reads a dash that starts an entry of a block. -/
def readBlockEntry (s : Scan) : Scanned := do
  if s.depth = 0 && !s.keyAllowed then malformed
  else
    let s := if s.depth = 0 then s.openBlock s.cursor.column s.tokens.length .blockSequence else s
    let s ← { s with keyAllowed := true }.dropKey
    return (s.emit .blockEntry).forward 1

/-- Reads a question mark that starts a key. -/
def readKeyMark (s : Scan) : Scanned := do
  if s.depth = 0 && !s.keyAllowed then malformed
  else
    let s := if s.depth = 0 then s.openBlock s.cursor.column s.tokens.length .blockMapping else s
    let s ← { s with keyAllowed := s.depth = 0 }.dropKey
    return (s.emit .key).forward 1

/-- Reads a colon: what may have been a key is one. -/
def readValueMark (s : Scan) : Scanned := do
  match s.keys.lookup s.depth with
  | some k =>
    let s := { s with keys := s.keys.filter fun e => e.1 != s.depth }
    let s := s.insertAt k.place [.key]
    let s := if s.depth = 0 then s.openBlock k.column k.place .blockMapping else s
    return ({ s with keyAllowed := false }.emit .value).forward 1
  | none =>
    if s.depth = 0 && !s.keyAllowed then malformed
    else
      let s := if s.depth = 0 then s.openBlock s.cursor.column s.tokens.length .blockMapping else s
      let s ← { s with keyAllowed := s.depth = 0 }.dropKey
      return (s.emit .value).forward 1

/-- Reads the mark of a document. -/
def readDocumentMark (s : Scan) (t : Token) : Scanned := do
  let s ← (s.unwind (-1)).dropKey
  return ({ s with keyAllowed := false }.emit t).forward 3

/-! ## All tokens -/

/-- A plain scalar starts with this character. -/
def startsPlain (s : Scan) (c : Char) : Bool :=
  let behind := isGap (s.cursor.ahead 1)
  let marks : List Char :=
    ['-', '?', ':', ',', '[', ']', '\x7b', '\x7d', '#', '&', '*', '!', '|', '>', '\'', '"', '%',
      '@', Char.ofNat 0x60]
  (!isGap (some c) && !marks.contains c)
    || (!behind && (c == '-' || (s.depth = 0 && (c == '?' || c == ':'))))

/-- Reads the token that starts with this character. -/
def readToken (s : Scan) (c : Char) : Scanned :=
  let behind := isGap (s.cursor.ahead 1)
  if s.cursor.column = 0 && s.cursor.atDocumentMark then
    s.readDocumentMark (if c == '-' then .documentStart else .documentEnd)
  else if c == '[' then s.openFlow .flowSequence
  else if c == '\x7b' then s.openFlow .flowMapping
  else if c == ']' then s.closeFlow .flowSequenceEnd
  else if c == '\x7d' then s.closeFlow .flowMappingEnd
  else if c == ',' then s.readFlowEntry
  else if c == '-' && behind then s.readBlockEntry
  else if c == '?' && (s.depth != 0 || behind) then s.readKeyMark
  else if c == ':' && (s.depth != 0 || behind) then s.readValueMark
  else if c == '\'' then s.readQuoted false
  else if c == '"' then s.readQuoted true
  else if s.startsPlain c then s.readPlain
  else malformed

/-- Reads all tokens that are left. -/
def readTokens (fuel : Nat) (s : Scan) : Except Fault (List Token) :=
  match fuel with
  | 0 => malformed
  | fuel + 1 => do
    let s ← (s.skipGaps (s.cursor.rest.length + 1)).dropStaleKeys
    let s := s.unwind s.cursor.column
    match s.cursor.peek with
    | none => do
      let s ← (s.unwind (-1)).dropKey
      return s.tokens
    | some c => readTokens fuel (← s.readToken c)

end Scan

/-- The characters that may stand in a text. -/
def isPermitted (c : Char) : Bool :=
  c == '\t' || c == '\n' || c == '\r' || (' ' ≤ c && c ≤ '~') || c == '\x85'
    || ('\xa0' ≤ c && c != '\ufffe' && c != '\uffff')

/-- The tokens of a text. -/
def tokens (cs : List Char) : Except Fault (List Token) :=
  if cs.all isPermitted then
    let cs := match cs with
      | '\ufeff' :: rest => rest
      | _ => cs
    (Scan.start cs).readTokens (cs.length + 1)
  else malformed

end PipeQuery.Yaml
