import PipeQuery.Query.Basic
import PipeQuery.Query.Token
import PipeQuery.Text.Case

/-!
# Reading queries

Every text is a query: nothing is refused here.
-/

namespace PipeQuery

/-- Tokens with an equals sign that are arguments all the same. -/
def comparisonSigns : List String := ["==", "!=", ">=", "<=", ">", "<", "="]

/-- A token as a parameter: what stands before and behind its first equals
sign, unless it was quoted or is a sign of comparison. -/
def Query.Token.param? (t : Query.Token) : Option (String × String) :=
  if t.quoted || comparisonSigns.contains (String.ofList t.text) then none
  else (Text.cutAt? '=' t.text).map fun r => (String.ofList r.1, String.ofList r.2)

/-- Adds a token to a stage, as a parameter or as an argument. -/
def StageSpec.addToken (spec : StageSpec) (t : Query.Token) : StageSpec :=
  match t.param? with
  | some (key, value) => { spec with params := spec.params.insert key value }
  | none => { spec with args := spec.args ++ [String.ofList t.text] }

/-- The stage written in a segment, if anything is. -/
def StageSpec.ofChars? (segment : List Char) : Option StageSpec :=
  match Query.tokens (Text.trimChars segment) with
  | [] => none
  | command :: rest =>
    some (rest.foldl StageSpec.addToken
      ⟨String.ofList (Text.lowerChars command.text), [], .empty⟩)

/-- Reads one stage. -/
def StageSpec.read? (segment : String) : Option StageSpec := StageSpec.ofChars? segment.toList

/-- Reads a query; without any text it selects every record. -/
def Query.read (text : String) : Query :=
  match Query.segments text.toList with
  | [] => ⟨matchAll, []⟩
  | base :: rest =>
    let base := Text.trimChars base
    ⟨if base.isEmpty then matchAll else String.ofList base, rest.filterMap StageSpec.ofChars?⟩

end PipeQuery
