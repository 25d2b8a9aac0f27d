/-!
# Lines

A text is read with one kind of line break: a carriage return, alone or before
a line feed, becomes a line feed.
-/

namespace PipeQuery.Text

/-- Every line break as a line feed. -/
def plainBreaks : List Char → List Char
  | [] => []
  | '\r' :: '\n' :: rest => '\n' :: plainBreaks rest
  | c :: rest => (if c == '\r' then '\n' else c) :: plainBreaks rest

/-- The text of all lines that have ended.  A carriage return at the very end
may be the first half of a break, and ends none yet. -/
def endedLines (cs : List Char) : List Char :=
  let certain := if cs.getLast? == some '\r' then cs.dropLast else cs
  ((plainBreaks certain).reverse.dropWhile (· != '\n')).reverse

/-- The lines of a text, of which `read` holds, in reverse, what has been read
of the first. -/
def linesFrom (read : List Char) : List Char → List (List Char)
  | [] => if read.isEmpty then [] else [read.reverse]
  | c :: rest => if c == '\n' then read.reverse :: linesFrom [] rest else linesFrom (c :: read) rest

/-- The lines of a text, without their breaks. -/
def lines (cs : List Char) : List (List Char) := linesFrom [] cs

end PipeQuery.Text
