import PipeQuery.Source.Basic
import PipeQuery.Source.Glob
import PipeQuery.Query.Basic
import PipeQuery.Text.Blank
import PipeQuery.Text.Case

/-!
# Base filters

A base filter is a list of terms that all have to hold: `field:glob` looks at a
field, any other word is looked for in the text of the record.  Case makes no
difference.  A record that matches has a score: one, and one more for every
place where a word occurs.
-/

namespace PipeQuery

/-- A condition on a record. -/
inductive FilterTerm where
  /-- The text of the record holds a word. -/
  | word (text : List Char)
  /-- A field matches a glob. -/
  | field (name : String) (glob : List Char)
  deriving DecidableEq

namespace FilterTerm

/-- The term of a word of the filter.  Quotes around it count for nothing, and
what is then empty or selects every record is no term. -/
def read? (token : List Char) : Option FilterTerm :=
  let bare := Text.trimWhile (· == '"') token
  if bare.isEmpty || bare == matchAll.toList then none
  else match Text.cutAt? ':' bare with
    | some (c :: name, glob) => some (field (String.ofList (c :: name)) (Text.lowerChars glob))
    | _ => some (word (Text.lowerChars bare))

/-- The field that stands for the source of a record that has no such field. -/
def sourceField : String := "source"

/-- The text that a term about a field looks at. -/
def candidate? (name : String) (r : Record) : Option String :=
  match r.get? name with
  | some text => some text
  | none => if name == sourceField then r.source else none

/-- How often the term holds of a record whose text is `text` in lower case: a
word as often as it occurs, a field at most once and without adding to the
score. -/
def score? (text : List Char) (r : Record) : FilterTerm → Option Nat
  | word w =>
    let occurrences := Text.count w text
    if occurrences = 0 then none else some occurrences
  | field name glob =>
    match candidate? name r with
    | none => none
    | some value =>
      if (Glob.read glob).accepts (Text.lowerChars value.toList) then some 0 else none

end FilterTerm

/-- The terms of a base filter. -/
def filterTerms (query : String) : List FilterTerm :=
  (Text.words query.toList).filterMap FilterTerm.read?

/-- The score of a record under some terms, if all of them hold. -/
def scoreUnder? (terms : List FilterTerm) (r : Record) : Option Binary64 :=
  let text := Text.lowerChars r.raw.toList
  terms.foldl (fun score term =>
    match score, term.score? text r with
    | some x, some n => some (if n = 0 then x else x + .ofInt n)
    | _, _ => none) (some (.ofInt 1))

/-- The hits among records: those that the filter selects and the range holds,
in their order. -/
def hitsAmong (records : List Record) (query : String) (range : Option TimeRange) : List Hit :=
  let terms := filterTerms query
  records.zipIdx.filterMap fun (r, number) =>
    if range.all fun range => range.holds r.millis? then
      (scoreUnder? terms r).map fun score => ⟨number, score⟩
    else none

end PipeQuery
