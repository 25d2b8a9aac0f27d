import PipeQuery.Datum.Yaml.Token
import PipeQuery.Datum.Yaml.Scalar

/-!
# Reading YAML

One document of block and flow collections and scalars.  The readers take the
tokens that are left and give a value with the rest; they get `fuel` for four
steps a token, and take at most three to pass one.
-/

namespace PipeQuery.Yaml

/-- Tokens behind which a value is left out. -/
def isAbsent (ends : List Token) (ts : List Token) : Bool :=
  match ts.head? with
  | none => true
  | some t => ends.contains t

/-- The value of a scalar. -/
def scalarValue (text : String) (plain : Bool) : Except Fault Datum :=
  if plain then
    match plainValue? text with
    | some value => .ok value
    | none => malformed
  else .ok (.text text)

/-- A scalar as a key: an equals sign stands for itself. -/
def keyScalar (text : String) (plain : Bool) : Except Fault Datum :=
  if plain && text == "=" then .ok (.text text) else scalarValue text plain

/-- The mapping of some entries. -/
def mappingOf (entries : List (Datum × Datum)) : Except Fault Datum :=
  if entries.all fun e => e.1.isKey then .ok (.mapping (Datum.settle entries)) else malformed

mutual

/-- A value.  With `block` it may be a block collection, with `indentless` also
a sequence that is not indented. -/
def node (fuel : Nat) (block indentless asKey : Bool) (ts : List Token) :
    Except Fault (Datum × List Token) :=
  match fuel, ts with
  | 0, _ => malformed
  | _ + 1, .scalar text plain :: ts => do
    return (← if asKey then keyScalar text plain else scalarValue text plain, ts)
  | fuel + 1, .flowSequence :: ts => do
    let (items, ts) ← flowItems fuel true ts
    return (.list items, ts)
  | fuel + 1, .flowMapping :: ts => do
    let (entries, ts) ← flowEntries fuel true ts
    return (← mappingOf entries, ts)
  | fuel + 1, .blockEntry :: ts =>
    if indentless then do
      let (items, ts) ← indentlessItems fuel (.blockEntry :: ts)
      return (.list items, ts)
    else malformed
  | fuel + 1, .blockSequence :: ts =>
    if block then do
      let (items, ts) ← blockItems fuel ts
      return (.list items, ts)
    else malformed
  | fuel + 1, .blockMapping :: ts =>
    if block then do
      let (entries, ts) ← blockEntries fuel ts
      return (← mappingOf entries, ts)
    else malformed
  | _ + 1, _ => malformed

/-- A value, or nothing before one of some tokens. -/
def nodeOrNull (fuel : Nat) (block indentless asKey : Bool) (ends : List Token)
    (ts : List Token) : Except Fault (Datum × List Token) :=
  match fuel with
  | 0 => malformed
  | fuel + 1 => if isAbsent ends ts then .ok (.null, ts) else node fuel block indentless asKey ts

/-- The entries of a block sequence. -/
def blockItems (fuel : Nat) (ts : List Token) : Except Fault (List Datum × List Token) :=
  match fuel, ts with
  | _ + 1, .blockEnd :: ts => .ok ([], ts)
  | fuel + 1, .blockEntry :: ts => do
    let (item, ts) ← nodeOrNull fuel true false false [.blockEntry, .blockEnd] ts
    let (items, ts) ← blockItems fuel ts
    return (item :: items, ts)
  | _, _ => malformed

/-- The entries of a sequence that is not indented. -/
def indentlessItems (fuel : Nat) (ts : List Token) : Except Fault (List Datum × List Token) :=
  match fuel, ts with
  | fuel + 1, .blockEntry :: ts => do
    let (item, ts) ← nodeOrNull fuel true false false [.blockEntry, .key, .value, .blockEnd] ts
    let (items, ts) ← indentlessItems fuel ts
    return (item :: items, ts)
  | _ + 1, ts => .ok ([], ts)
  | 0, _ => malformed

/-- The entries of a block mapping. -/
def blockEntries (fuel : Nat) (ts : List Token) :
    Except Fault (List (Datum × Datum) × List Token) :=
  match fuel, ts with
  | _ + 1, .blockEnd :: ts => .ok ([], ts)
  | fuel + 1, .key :: ts => do
    let (key, ts) ← nodeOrNull fuel true true true [.key, .value, .blockEnd] ts
    let (value, ts) ← blockValue fuel ts
    let (entries, ts) ← blockEntries fuel ts
    return ((key, value) :: entries, ts)
  | _, _ => malformed

/-- The value of a key in a block. -/
def blockValue (fuel : Nat) (ts : List Token) : Except Fault (Datum × List Token) :=
  match fuel, ts with
  | fuel + 1, .value :: ts => nodeOrNull fuel true true false [.key, .value, .blockEnd] ts
  | _ + 1, ts => .ok (.null, ts)
  | 0, _ => malformed

/-- The entries of a flow sequence; all but the first stand behind commas. -/
def flowItems (fuel : Nat) (first : Bool) (ts : List Token) :
    Except Fault (List Datum × List Token) :=
  match fuel, ts with
  | 0, _ => malformed
  | _ + 1, .flowSequenceEnd :: ts => .ok ([], ts)
  | fuel + 1, ts =>
    match (if first then ts else ts.drop 1), (if first then none else ts.head?) with
    | .flowSequenceEnd :: ts, some .flowEntry => .ok ([], ts)
    | .key :: ts, some .flowEntry => flowPair fuel ts
    | .key :: ts, none => flowPair fuel ts
    | _, some .flowEntry => flowItem fuel (ts.drop 1)
    | _, none => flowItem fuel ts
    | _, _ => malformed

/-- An entry of a flow sequence with those behind it. -/
def flowItem (fuel : Nat) (ts : List Token) : Except Fault (List Datum × List Token) :=
  match fuel with
  | 0 => malformed
  | fuel + 1 => do
    let (item, ts) ← node fuel false false false ts
    let (items, ts) ← flowItems fuel false ts
    return (item :: items, ts)

/-- A key with a value as an entry of a flow sequence, with those behind it. -/
def flowPair (fuel : Nat) (ts : List Token) : Except Fault (List Datum × List Token) :=
  match fuel with
  | 0 => malformed
  | fuel + 1 => do
    let (key, ts) ← nodeOrNull fuel false false true [.value, .flowEntry, .flowSequenceEnd] ts
    let (value, ts) ← flowValue fuel [.flowEntry, .flowSequenceEnd] ts
    let entry ← mappingOf [(key, value)]
    let (items, ts) ← flowItems fuel false ts
    return (entry :: items, ts)

/-- The value of a key in a flow collection. -/
def flowValue (fuel : Nat) (ends ts : List Token) : Except Fault (Datum × List Token) :=
  match fuel, ts with
  | fuel + 1, .value :: ts => nodeOrNull fuel false false false ends ts
  | _ + 1, ts => .ok (.null, ts)
  | 0, _ => malformed

/-- The entries of a flow mapping; all but the first stand behind commas. -/
def flowEntries (fuel : Nat) (first : Bool) (ts : List Token) :
    Except Fault (List (Datum × Datum) × List Token) :=
  match fuel, ts with
  | 0, _ => malformed
  | _ + 1, .flowMappingEnd :: ts => .ok ([], ts)
  | fuel + 1, ts =>
    match (if first then ts else ts.drop 1), (if first then none else ts.head?) with
    | .flowMappingEnd :: ts, some .flowEntry => .ok ([], ts)
    | .key :: ts, some .flowEntry => flowKey fuel ts
    | .key :: ts, none => flowKey fuel ts
    | _, some .flowEntry => flowLoneKey fuel (ts.drop 1)
    | _, none => flowLoneKey fuel ts
    | _, _ => malformed

/-- A key with its value in a flow mapping, with those behind it. -/
def flowKey (fuel : Nat) (ts : List Token) :
    Except Fault (List (Datum × Datum) × List Token) :=
  match fuel with
  | 0 => malformed
  | fuel + 1 => do
    let (key, ts) ← nodeOrNull fuel false false true [.value, .flowEntry, .flowMappingEnd] ts
    let (value, ts) ← flowValue fuel [.flowEntry, .flowMappingEnd] ts
    let (entries, ts) ← flowEntries fuel false ts
    return ((key, value) :: entries, ts)

/-- A key without a value in a flow mapping, with those behind it. -/
def flowLoneKey (fuel : Nat) (ts : List Token) :
    Except Fault (List (Datum × Datum) × List Token) :=
  match fuel with
  | 0 => malformed
  | fuel + 1 => do
    let (key, ts) ← node fuel false false true ts
    let (entries, ts) ← flowEntries fuel false ts
    return ((key, .null) :: entries, ts)

end

/-! ## Documents -/

/-- The tokens behind the ends of documents. -/
def skipDocumentEnds (ts : List Token) : List Token := ts.dropWhile (· == .documentEnd)

/-- A value at the start of a document; nothing if there is none. -/
def documentValue (ts : List Token) : Except Fault (Datum × List Token) :=
  nodeOrNull (4 * ts.length + 4) true false false [.documentStart, .documentEnd] ts

/-- Reads a text that is at most one document. -/
def read (cs : List Char) : Except Fault Datum := do
  match ← tokens cs with
  | [] => return .null
  | .documentEnd :: _ => malformed
  | ts =>
    let (value, rest) ← documentValue (match ts with
      | .documentStart :: rest => rest
      | _ => ts)
    if (skipDocumentEnds rest).isEmpty then return value else malformed

end PipeQuery.Yaml
