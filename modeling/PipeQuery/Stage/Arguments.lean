import PipeQuery.Query.Basic
import PipeQuery.Number.Decimal
import PipeQuery.Text.Case
import PipeQuery.Text.Find

/-!
# Arguments

What the stages have in common when they read their arguments.
-/

namespace PipeQuery

/-- The characters that numbers are made of. -/
def isNumberChar (c : Char) : Bool := c.isDigit || c == '.'

/-- The number in a text of which only digits and points are looked at, so
that a unit behind it does no harm. -/
def numberIn? (text : String) : Option Binary64 :=
  readBinary64? (text.toList.filter isNumberChar)

/-- The characters between quotes at both ends. -/
def unquoteChars (cs : List Char) : List Char :=
  if 2 ≤ cs.length && cs.head? == some '"' && cs.getLast? == some '"' then
    (cs.drop 1).dropLast
  else cs

/-- The text between quotes at both ends, if there are any. -/
def unquote (s : String) : String := String.ofList (unquoteChars s.toList)

/-- The argument is the keyword, in any case. -/
def isKeyword (keyword arg : String) : Bool := Text.lower arg == keyword

/-- The place of a keyword. -/
def keywordIndex? (keyword : String) (args : List String) : Option Nat :=
  args.findIdx? (isKeyword keyword)

/-- Aggregations and the fields to group by. -/
structure Grouping where
  aggregations : List String
  fields : List String
  deriving DecidableEq

/-- What is counted when nothing else is asked for. -/
def defaultAggregation : String := "count"

/-- Splits arguments at the word `by`: aggregations before it and fields
behind it; the word itself may come again.  With `onlyFirst` one field is
enough. -/
def Grouping.ofArgs (onlyFirst : Bool) (args : List String) : Grouping :=
  let before := args.takeWhile fun a => !isKeyword "by" a
  let fields := (args.drop before.length).filter fun a => !isKeyword "by" a
  ⟨if before.isEmpty then [defaultAggregation] else before,
    if onlyFirst then fields.take 1 else fields⟩

namespace StageSpec

/-- A parameter, without quotes around it. -/
def param? (spec : StageSpec) (key : String) : Option String :=
  (spec.params.get? key).map unquote

end StageSpec

end PipeQuery
