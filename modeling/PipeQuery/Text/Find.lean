/-!
# Looking for one text inside another

Occurrences are found from left to right and never overlap.  `skip` is the
number of characters that still belong to the last occurrence.
-/

namespace PipeQuery.Text

/-- `part` occurs somewhere in the text; the empty text occurs in every text. -/
def occursIn (part : List Char) : List Char → Bool
  | [] => part.isEmpty
  | c :: rest => part.isPrefixOf (c :: rest) || occursIn part rest

/-- The number of occurrences of a non-empty `part`. -/
def countFrom (part : List Char) (skip : Nat) : List Char → Nat
  | [] => 0
  | c :: rest =>
    match skip with
    | k + 1 => countFrom part k rest
    | 0 =>
      if part.isPrefixOf (c :: rest) then countFrom part (part.length - 1) rest + 1
      else countFrom part 0 rest

/-- How often `part` occurs; the empty text occurs around every character. -/
def count (part text : List Char) : Nat :=
  if part.isEmpty then text.length + 1 else countFrom part 0 text

/-- Every occurrence of a non-empty `part` replaced by `image`. -/
def replaceFrom (part image : List Char) (skip : Nat) : List Char → List Char
  | [] => []
  | c :: rest =>
    match skip with
    | k + 1 => replaceFrom part image k rest
    | 0 =>
      if part.isPrefixOf (c :: rest) then image ++ replaceFrom part image (part.length - 1) rest
      else c :: replaceFrom part image 0 rest

/-- Every occurrence of a non-empty `part` replaced by `image`. -/
def replace (part image text : List Char) : List Char := replaceFrom part image 0 text

/-- The pieces of a text between the characters `mark`; always at least one. -/
def splitOn (mark : Char) : List Char → List (List Char)
  | [] => [[]]
  | c :: rest =>
    match splitOn mark rest with
    | [] => [[]]
    | piece :: pieces => if c == mark then [] :: piece :: pieces else (c :: piece) :: pieces

/-- What stands before and after the first character `mark`, if there is one. -/
def cutAt? (mark : Char) : List Char → Option (List Char × List Char)
  | [] => none
  | c :: rest =>
    if c == mark then some ([], rest) else (cutAt? mark rest).map fun r => (c :: r.1, r.2)

/-- The pieces put together with `separator` between them. -/
def join (separator : String) : List String → String
  | [] => ""
  | [piece] => piece
  | piece :: pieces => piece ++ separator ++ join separator pieces

end PipeQuery.Text
