import PipeQuery.Text.Find

/-!
# Globs

Patterns with wildcards: `*` is any text, `?` any character and `[…]` a
character of a set, which may hold ranges and is negated by a leading `!`.  A
bracket that is never closed is a character like any other.  A glob matches a
whole text.
-/

namespace PipeQuery

/-- One step of a glob. -/
inductive GlobStep where
  | star
  | any
  | char (c : Char)
  /-- A character in one of the ranges, or in none of them if negated. -/
  | set (negated : Bool) (ranges : List (Char × Char))
  deriving DecidableEq

/-- A glob as its steps. -/
abbrev Glob := List GlobStep

namespace Glob

/-! ## Reading sets -/

/-- The characters between the brackets, and the rest behind them, if the
bracket is closed.  A closing bracket that stands first, or behind the sign of
negation, belongs to the set. -/
def bracket? (cs : List Char) : Option (List Char × List Char) :=
  let lead := match cs with
    | '!' :: ']' :: _ => 2
    | '!' :: _ => 1
    | ']' :: _ => 1
    | _ => 0
  (Text.cutAt? ']' (cs.drop lead)).map fun r => (cs.take lead ++ r.1, r.2)

/-- The chunks of a set, between the hyphens that make ranges.  `chunk` holds,
in reverse, what has been read of the first, and `skip` is the number of
characters that come before the next such hyphen can. -/
def chunksFrom (chunk : List Char) (skip : Nat) : List Char → List (List Char)
  | [] => [chunk.reverse]
  | c :: rest =>
    match skip with
    | k + 1 => chunksFrom (c :: chunk) k rest
    | 0 => if c == '-' then chunk.reverse :: chunksFrom [] 2 rest else chunksFrom (c :: chunk) 0 rest

/-- A hyphen at the end makes no range. -/
def closeLast : List (List Char) → List (List Char)
  | [] => []
  | [chunk] => [chunk]
  | [chunk, []] => [chunk ++ ['-']]
  | chunk :: rest => chunk :: closeLast rest

/-- Puts a chunk before others; the range between them is left out if it runs
backwards. -/
def linkChunk (chunk : List Char) : List (List Char) → List (List Char)
  | [] => [chunk]
  | next :: rest =>
    match chunk.getLast?, next.head? with
    | some low, some high =>
      if high < low then (chunk.dropLast ++ next.drop 1) :: rest else chunk :: next :: rest
    | _, _ => chunk :: next :: rest

/-- The chunks of a set without the ranges that run backwards. -/
def chunks (body : List Char) : List (List Char) :=
  let skip := if body.head? == some '!' then 2 else 1
  (closeLast (chunksFrom [] skip body)).foldr linkChunk []

/-- The ranges of a set: between two chunks, from the last character of one to
the first of the next; every other character is a range of its own. -/
def rangesOf : List (List Char) → List (Char × Char)
  | [] => []
  | chunk :: rest =>
    chunk.map (fun c => (c, c)) ++
      (match chunk.getLast?, rest.head?.bind List.head? with
        | some low, some high => [(low, high)]
        | _, _ => []) ++ rangesOf rest

/-- The step of a set. -/
def setStep (body : List Char) : GlobStep :=
  match chunks body with
  | ('!' :: chunk) :: rest => .set true (rangesOf (chunk :: rest))
  | cs => .set false (rangesOf cs)

/-- Reads a glob; `skip` is the number of characters that belong to the step
before. -/
def readFrom (skip : Nat) : List Char → Glob
  | [] => []
  | c :: rest =>
    match skip with
    | k + 1 => readFrom k rest
    | 0 =>
      if c == '*' then .star :: readFrom 0 rest
      else if c == '?' then .any :: readFrom 0 rest
      else if c == '[' then
        match bracket? rest with
        | some (body, _) => setStep body :: readFrom (body.length + 1) rest
        | none => .char c :: readFrom 0 rest
      else .char c :: readFrom 0 rest

/-- Reads a glob. -/
def read (cs : List Char) : Glob := readFrom 0 cs

/-! ## Matching -/

/-- A step that takes one character takes this one. -/
def takes (c : Char) : GlobStep → Bool
  | .star => false
  | .any => true
  | .char d => c == d
  | .set negated ranges => ranges.any (fun r => r.1 ≤ c && c ≤ r.2) != negated

/-- The ends of a text, the longest first. -/
def tails : List Char → List (List Char)
  | [] => [[]]
  | c :: rest => (c :: rest) :: tails rest

/-- What can be left of the text after a step, given what can be left before
it, the longest first. -/
def advance (lefts : List (List Char)) : GlobStep → List (List Char)
  | .star =>
    match lefts with
    | [] => []
    | longest :: _ => tails longest
  | step => lefts.filterMap fun left =>
      match left with
      | [] => none
      | c :: rest => if takes c step then some rest else none

/-- The glob matches the whole text. -/
def accepts (glob : Glob) (text : List Char) : Bool :=
  (glob.foldl advance [text]).contains []

end Glob

end PipeQuery
