import PipeQuery.Text.Blank
import PipeQuery.Text.Find

/-!
# Segments and tokens

Bars split a query into segments and blanks split a segment into tokens,
except between double quotes; a quote behind a backslash is a character like
any other.  A quote that is never closed reaches to the end of the query.  The
characters already read of a segment or token are kept in reverse.
-/

namespace PipeQuery.Query

/-- A quote that opens or closes, behind the characters already read. -/
def isQuote (read : List Char) (c : Char) : Bool := c == '"' && read.head? != some '\\'

/-- The segments of a text, of which `read` has been read of the first;
`quoted` says whether a quote is open. -/
def segmentsFrom (quoted : Bool) (read : List Char) : List Char → List (List Char)
  | [] => [read.reverse]
  | c :: rest =>
    if isQuote read c then segmentsFrom (!quoted) (c :: read) rest
    else if c == '|' && !quoted then read.reverse :: segmentsFrom quoted [] rest
    else segmentsFrom quoted (c :: read) rest

/-- The pieces of a query between the bars that stand outside quotes. -/
def segments (query : List Char) : List (List Char) := segmentsFrom false [] query

/-- A piece of a segment, and whether it stood in quotes. -/
structure Token where
  text : List Char
  quoted : Bool
  deriving DecidableEq

/-- The text without its last opening quote, and whether that stood first.
`after` is what has been passed over, from the end. -/
def dropLastQuote (after : List Char) : List Char → List Char × Bool
  | [] => (after, false)
  | c :: before =>
    if isQuote before c then (before.reverse ++ after, before.isEmpty)
    else dropLastQuote (c :: after) before

/-- A quote behind a backslash is the quote. -/
def unescape (cs : List Char) : List Char := Text.replace ['\\', '"'] ['"'] cs

/-- A token that starts and ends with a quote. -/
def isWrapped (read : List Char) : Bool :=
  2 ≤ read.length && read.getLast? == some '"' && read.head? == some '"'
    && read[1]? != some '\\'

/-- The token of the characters read, if there are any; `unclosed` says that a
quote is open in it. -/
def finish? (read : List Char) (unclosed : Bool) : Option Token :=
  if read.isEmpty then none
  else if unclosed then
    match dropLastQuote [] read with
    | (text, quoted) => some ⟨unescape text, quoted⟩
  else if isWrapped read then some ⟨unescape ((read.drop 1).reverse.drop 1), true⟩
  else some ⟨unescape read.reverse, false⟩

/-- The tokens of a text, of which `read` has been read of the first. -/
def tokensFrom (quoted : Bool) (read : List Char) : List Char → List Token
  | [] => (finish? read quoted).toList
  | c :: rest =>
    if isQuote read c then tokensFrom (!quoted) (c :: read) rest
    else if Text.isBlank c && !quoted then
      (finish? read false).toList ++ tokensFrom quoted [] rest
    else tokensFrom quoted (c :: read) rest

/-- The tokens of a segment. -/
def tokens (segment : List Char) : List Token := tokensFrom false [] segment

end PipeQuery.Query
