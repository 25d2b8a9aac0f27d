import PipeQuery.Stage.Arguments
import PipeQuery.Pattern.Matcher
import PipeQuery.Fault
import PipeQuery.Result

/-!
# Transforms

`transform` rewrites the fields of records, or the cells of rows, one record
or row at a time.  All its operations work on cells; the fields of a record
are texts, so what it writes there is written as text.
-/

namespace PipeQuery

/-- A rewriting of fields. -/
inductive Transform where
  | rename (field target : String)
  /-- What a pattern finds in a field, into another field. -/
  | extract (field : String) (pattern : Pattern) (target : String)
  | replace (field : String) (pattern : Pattern) (replacement : String)
  /-- The texts of several fields, put together. -/
  | merge (sources : List String) (target separator : String)
  /-- The value of an expression. -/
  | eval (target expression : String)
  | remove (field : String)
  deriving DecidableEq

/-! ## Expressions -/

/-- A text or a number, as an expression gives it. -/
inductive ExpressionValue where
  | text (s : String)
  | number (x : Binary64)
  deriving DecidableEq

/-- The value as a cell. -/
def ExpressionValue.toCell : ExpressionValue → Cell
  | text s => .text s
  | number x => .number (.binary x)

/-- The four operations. -/
def isOperator (c : Char) : Bool := c == '+' || c == '-' || c == '*' || c == '/'

/-- Puts the value of each field in the place of its name, one field after the
other, wherever the name occurs in what has come of the text by then. -/
def substitute (expression : List Char) (values : List (String × String)) : List Char :=
  values.foldl
    (fun text e => if e.1.isEmpty then text else Text.replace e.1.toList e.2.toList text)
    expression

/-- Two operands with their operation; nothing is divided by zero. -/
def operate? (operator : Char) (left right : Binary64) : Option Binary64 :=
  if operator == '+' then some (left + right)
  else if operator == '-' then some (left - right)
  else if operator == '*' then some (left * right)
  else if right.isZero then none
  else some (left / right)

/-- What stands before the first operator, the operator, and what stands behind. -/
def splitOperator? : List Char → Option (List Char × Char × List Char)
  | [] => none
  | c :: rest =>
    if isOperator c then some ([], c, rest)
    else (splitOperator? rest).map fun r => (c :: r.1, r.2)

/-- The value of a text with exactly one operator between two numbers. -/
def calculate? (text : List Char) : Option Binary64 :=
  match splitOperator? text with
  | none => none
  | some (before, operator, after) =>
    if after.any isOperator then none
    else
      match readBinary64? (Text.trimChars before), readBinary64? (Text.trimChars after) with
      | some left, some right => operate? operator left right
      | _, _ => none

/-- The value of an expression: a number if one operation is left after the
fields have been put in, the text otherwise. -/
def evaluate (expression : String) (values : OrderedMap String String) : ExpressionValue :=
  let text := substitute expression.toList values.entries
  match calculate? text with
  | some x => .number x
  | none => .text (String.ofList text)

/-! ## Application -/

namespace Transform

/-- The name of the stage. -/
def stageName : String := "transform"

/-- Rewrites cells.  With `typed` the value of an expression stays a number. -/
def apply (typed : Bool) (t : Transform) (row : Row) : Row :=
  match t with
  | rename field target =>
    match row.get? field with
    | some cell => (row.erase field).insert target cell
    | none => row
  | extract field pattern target =>
    match (row.get? field).bind fun cell => pattern.extract? cell.shown with
    | some found => row.insert target (.text found)
    | none => row
  | replace field pattern replacement =>
    match row.get? field with
    | some cell => row.insert field (.text (pattern.replaceAll replacement cell.shown))
    | none => row
  | merge sources target separator =>
    row.insert target
      (.text (Text.join separator ((sources.filterMap row.get?).map Cell.shown)))
  | eval target expression =>
    let value := (evaluate expression (row.mapValues Cell.shown)).toCell
    row.insert target (if typed then value else .text value.shown)
  | remove field => row.erase field

/-- Rewrites the fields of a record. -/
def applyFields (t : Transform) (fields : Fields) : Fields :=
  (t.apply false (fields.mapValues .text)).mapValues Cell.shown

/-- Rewrites the fields of a record and nothing else of it. -/
def applyRecord (t : Transform) (r : Record) : Record := r.withFields (t.applyFields r.fields)

/-- The columns of a table after its rows have been transformed. -/
def columns (t : Transform) (columns : List String) : List String :=
  let withTarget (target : String) :=
    if columns.contains target then columns else columns ++ [target]
  match t with
  | rename field target =>
    if columns.contains field then
      if columns.contains target then columns.erase field
      else columns.set (columns.idxOf field) target
    else columns
  | extract _ _ target | merge _ target _ | eval target _ => withTarget target
  | replace .. => columns
  | remove field => columns.erase field

/-- Rewrites all rows of a table, and its columns. -/
def applyTable (t : Transform) (table : Table) : Table :=
  { table with columns := t.columns table.columns, rows := table.rows.map (t.apply true) }

/-! ## Building -/

/-- How an operation is written. -/
def form : String → String
  | "rename" => "transform rename <field> as <newname>"
  | "extract" => "transform extract <field> regex \"pattern\" as <newfield>"
  | "replace" => "transform replace <field> regex \"pattern\" with \"replacement\""
  | "merge" => "transform merge <field1,field2,...> as <newfield> [separator=\"sep\"]"
  | "eval" => "transform eval <newfield> = <expression>"
  | "remove" => "transform remove <field>"
  | _ => ""

/-- Refuses arguments that do not have the form of their operation. -/
def misuse {α : Type} (operation : String) : Except Fault α :=
  .error (.argument (.transformForm operation (form operation)))

/-- The argument behind a place, which has to be there. -/
def argAfter (args : List String) (index : Nat) : Except Fault String :=
  match args[index + 1]? with
  | some arg => .ok arg
  | none => .error .beyondEnd

/-- The field, the pattern behind `regex` and the argument behind `keyword`. -/
def patternArgs [Platform] (operation keyword : String) (args : List String) :
    Except Fault (String × Pattern × String) :=
  match args[1]?, keywordIndex? "regex" args, keywordIndex? keyword args with
  | some field, some regexIndex, some keywordIndex =>
    if args.length < 6 then misuse operation
    else do
      let source ← argAfter args regexIndex
      let last ← argAfter args keywordIndex
      let pattern ← Pattern.readFor stageName source
      return (field, pattern, last)
  | _, _, _ => misuse operation

/-- The names in a list with commas. -/
def nameList (text : String) : List String :=
  (((Text.splitOn ',' text.toList).map Text.trimChars).filter fun name => !name.isEmpty).map
    String.ofList

/-- The merge of the texts of some fields. -/
def buildMerge (spec : StageSpec) : Except Fault Transform :=
  match spec.args[1]?, keywordIndex? "as" spec.args with
  | some names, some index =>
    if spec.args.length < 4 then misuse "merge"
    else
      match spec.args[index + 1]? with
      | some target => .ok (.merge (nameList names) target ((spec.param? "separator").getD ""))
      | none => misuse "merge"
  | _, _ => misuse "merge"

/-- The field that is set to the value of an expression. -/
def buildEval (spec : StageSpec) : Except Fault Transform :=
  match spec.args with
  | [_] =>
    match spec.params.entries with
    | [(target, expression)] => .ok (.eval target expression)
    | _ => misuse "eval"
  | _ :: target :: sign :: first :: rest =>
    if target != "=" && sign == "=" then .ok (.eval target (Text.join " " (first :: rest)))
    else misuse "eval"
  | _ => misuse "eval"

/-- The transform that is asked for. -/
def build [Platform] (spec : StageSpec) : Except Fault Transform :=
  match spec.args with
  | [] => .error (.argument .transformOperation)
  | first :: rest =>
    match Text.lower first with
    | "rename" =>
      match rest with
      | field :: keyword :: target :: _ =>
        if isKeyword "as" keyword then .ok (.rename field target) else misuse "rename"
      | _ => misuse "rename"
    | "extract" => do
      let (field, pattern, target) ← patternArgs "extract" "as" spec.args
      return .extract field pattern target
    | "replace" => do
      let (field, pattern, replacement) ← patternArgs "replace" "with" spec.args
      return .replace field pattern replacement
    | "merge" => buildMerge spec
    | "eval" => buildEval spec
    | "remove" =>
      match rest with
      | field :: _ => .ok (.remove field)
      | [] => misuse "remove"
    | operation => .error (.argument (.unknownTransform operation))

end Transform

end PipeQuery
