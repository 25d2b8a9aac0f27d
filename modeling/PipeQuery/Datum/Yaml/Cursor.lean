/-!
# Places in a text

A cursor stands before what is left of a text and knows its line and column.
-/

namespace PipeQuery.Yaml

/-- What is left of a text, and how much of it has been passed. -/
structure Cursor where
  rest : List Char
  index : Nat
  line : Nat
  column : Nat

/-- The characters that end a line. -/
def isBreak (c : Char) : Bool := c == '\n' || c == '\x85' || c == '\u2028' || c == '\u2029'

/-- Blank, but no line break. -/
def isSpaceOrTab (c : Char) : Bool := c == ' ' || c == '\t'

/-- Blank, a line break, or the end of the text. -/
def isGap : Option Char → Bool
  | none => true
  | some c => isSpaceOrTab c || isBreak c

namespace Cursor

/-- In front of a text. -/
def start (cs : List Char) : Cursor := ⟨cs, 0, 0, 0⟩

/-- The next character. -/
def peek (c : Cursor) : Option Char := c.rest.head?

/-- The character `n` places ahead. -/
def ahead (c : Cursor) (n : Nat) : Option Char := c.rest[n]?

/-- Passes characters that are no line breaks. -/
def forward (c : Cursor) (n : Nat) : Cursor :=
  ⟨c.rest.drop n, c.index + n, c.line, c.column + n⟩

/-- Passes a line break. -/
def newLine (c : Cursor) : Cursor := ⟨c.rest.drop 1, c.index + 1, c.line + 1, 0⟩

/-- Passes all characters with a property, which no line break has. -/
def skipWhile (c : Cursor) (p : Char → Bool) : Cursor :=
  c.forward (c.rest.takeWhile p).length

/-- The mark of a document, `---` or `...`, stands here. -/
def atDocumentMark (c : Cursor) : Bool :=
  (['-', '-', '-'].isPrefixOf c.rest || ['.', '.', '.'].isPrefixOf c.rest) && isGap (c.ahead 3)

/-- What a line break means in a text. -/
def breakText (c : Char) : Char := if c == '\x85' then '\n' else c

end Cursor

end PipeQuery.Yaml
