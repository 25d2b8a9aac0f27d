import PipeQuery.Stage.Arguments
import PipeQuery.Pattern.Matcher
import PipeQuery.Fault
import PipeQuery.Result

/-!
# Filters

`filter <field> <operator> <value>` keeps the records or rows whose field
meets a condition; those without the field never do.  Equality compares
texts, order compares numbers where both sides are numbers.
-/

namespace PipeQuery

/-- The conditions that compare with a value. -/
inductive Comparison where
  | equal
  | doubleEqual
  | notEqual
  | greater
  | atLeast
  | less
  | atMost
  | contains
  | startsWith
  | endsWith
  deriving DecidableEq

/-- The conditions that look for a pattern. -/
inductive PatternTest where
  | regex
  | matching
  | notRegex
  | notMatching
  deriving DecidableEq

namespace Comparison

/-- How the comparison is written. -/
def name : Comparison → String
  | equal => "="
  | doubleEqual => "=="
  | notEqual => "!="
  | greater => ">"
  | atLeast => ">="
  | less => "<"
  | atMost => "<="
  | contains => "contains"
  | startsWith => "startswith"
  | endsWith => "endswith"

/-- All comparisons. -/
def all : List Comparison :=
  [equal, doubleEqual, notEqual, greater, atLeast, less, atMost, contains, startsWith, endsWith]

/-- The comparison that is written so. -/
def named? (operator : String) : Option Comparison := all.find? fun c => c.name == operator

end Comparison

namespace PatternTest

/-- How the test is written. -/
def name : PatternTest → String
  | regex => "regex"
  | matching => "match"
  | notRegex => "!regex"
  | notMatching => "notmatch"

/-- All tests with patterns. -/
def all : List PatternTest := [regex, matching, notRegex, notMatching]

/-- The test that is written so. -/
def named? (operator : String) : Option PatternTest := all.find? fun t => t.name == operator

/-- The pattern must not be found. -/
def isNegated : PatternTest → Bool
  | regex | matching => false
  | notRegex | notMatching => true

end PatternTest

/-- What a filter asks of a field. -/
inductive Condition where
  | comparison (c : Comparison)
  | pattern (t : PatternTest) (p : Pattern)
  deriving DecidableEq

/-- A condition on a field. -/
structure Filter where
  field : String
  value : String
  condition : Condition
  deriving DecidableEq

namespace Filter

/-- The name of the stage. -/
def stageName : String := "filter"

/-- A number written without low lines. -/
def number? (text : String) : Option Binary64 :=
  if text.toList.contains '_' then none else readBinary64? text.toList

/-- The order of two texts by their characters. -/
def textOrder (left right : String) : Ordering :=
  if left < right then .lt else if right < left then .gt else .eq

/-- The order of two values: as numbers if both are numbers, as texts
otherwise.  NaN has no order. -/
def order? (left right : String) : Option Ordering :=
  match number? left, number? right with
  | some a, some b => a.order? b
  | _, _ => some (textOrder left right)

/-- A comparison of a field with a value. -/
def compares (c : Comparison) (actual expected : String) : Bool :=
  match c with
  | .equal | .doubleEqual => actual == expected
  | .notEqual => actual != expected
  | .greater => order? actual expected == some .gt
  | .atLeast => order? actual expected == some .gt || order? actual expected == some .eq
  | .less => order? actual expected == some .lt
  | .atMost => order? actual expected == some .lt || order? actual expected == some .eq
  | .contains => Text.occursIn expected.toList actual.toList
  | .startsWith => expected.toList.isPrefixOf actual.toList
  | .endsWith => expected.toList.isSuffixOf actual.toList

/-- A field with this text meets the condition. -/
def accepts (f : Filter) (actual : String) : Bool :=
  match f.condition with
  | .comparison c => compares c actual f.value
  | .pattern t p => p.occursIn actual != t.isNegated

/-- A field that may be missing meets the condition. -/
def holds (f : Filter) (actual : Option String) : Bool := actual.any f.accepts

/-- Whether the filter keeps a record. -/
def keepsRecord (f : Filter) (r : Record) : Bool := f.holds (r.get? f.field)

/-- Whether the filter keeps a row. -/
def keepsRow (f : Filter) (row : Row) : Bool := f.holds ((row.get? f.field).map Cell.shown)

/-- A filter on a field, with an operator in any case. -/
def create [Platform] (field operator value : String) : Except Fault Filter :=
  let operator := Text.lower operator
  match Comparison.named? operator with
  | some c => .ok ⟨field, value, .comparison c⟩
  | none =>
    match PatternTest.named? operator with
    | none => .error (.argument (.filterOperator operator))
    | some t => (Pattern.readFor stageName value).map fun p => ⟨field, value, .pattern t p⟩

/-- Field, operator and value; further arguments belong to the value. -/
def build [Platform] (spec : StageSpec) : Except Fault Filter :=
  match spec.args with
  | field :: operator :: first :: rest =>
    create field operator (unquote (Text.join " " (first :: rest)))
  | _ => .error (.argument .filterArguments)

/-- The operator as it is written. -/
def operator (f : Filter) : String :=
  match f.condition with
  | .comparison c => c.name
  | .pattern t _ => t.name

/-- The pattern looked for. -/
def pattern? (f : Filter) : Option Pattern :=
  match f.condition with
  | .comparison _ => none
  | .pattern _ p => some p

end Filter

end PipeQuery
