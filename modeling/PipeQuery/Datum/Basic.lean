import PipeQuery.Cell
import PipeQuery.Text.Quoted
import PipeQuery.Text.Find

/-!
# Data

The values that data files and configurations hold: nothing, flags, numbers,
texts, lists, and mappings in the order of their keys.
-/

namespace PipeQuery

/-- A value in a data file. -/
inductive Datum where
  | null
  | flag (b : Bool)
  | number (n : Number)
  | text (s : String)
  | list (items : List Datum)
  | mapping (entries : List (Datum × Datum))
  deriving Inhabited

namespace Datum

/-- A whole number. -/
def integer (n : Int) : Datum := number (.integer n)

/-- A binary64 number. -/
def binary (x : Binary64) : Datum := number (.binary x)

/-- The text, if it is one. -/
def text? : Datum → Option String
  | text s => some s
  | _ => none

theorem text?_eq_some_iff {d : Datum} {s : String} : d.text? = some s ↔ d = text s := by
  cases d <;> simp [text?]

/-- The value of a key that is a text. -/
def get? (key : String) (entries : List (Datum × Datum)) : Option Datum :=
  (entries.find? fun e => e.1.text? == some key).map Prod.snd

/-- The value of a key of a mapping. -/
def field? (key : String) : Datum → Option Datum
  | mapping entries => get? key entries
  | _ => none

/-- What a key is told by: whole numbers in other forms count as themselves. -/
def keyForm : Datum → Datum
  | flag b => integer (if b then 1 else 0)
  | number (.binary x) =>
    match x.truncate? with
    | some n => if x.orderToInt? n == some .eq then integer n else binary x
    | none => binary x
  | key => key

/-- Two keys that count as one.  Lists and mappings cannot be keys. -/
def isSameKey (a b : Datum) : Bool :=
  match a.keyForm, b.keyForm with
  | null, null => true
  | number m, number n => m == n
  | text s, text t => s == t
  | _, _ => false

/-- Sets the value of a key: in its place if it is there, else at the end. -/
def setEntry (key value : Datum) : List (Datum × Datum) → List (Datum × Datum)
  | [] => [(key, value)]
  | entry :: rest =>
    if entry.1.isSameKey key then (entry.1, value) :: rest
    else entry :: setEntry key value rest

/-- Lists and mappings cannot be keys. -/
def isKey : Datum → Bool
  | list _ | mapping _ => false
  | _ => true

/-- Entries in which a key that comes again keeps its first place and its last
value. -/
def settle (entries : List (Datum × Datum)) : List (Datum × Datum) :=
  entries.foldl (fun settled e => setEntry e.1 e.2 settled) []

/-- A value that counts as nothing: null, false, zero, or without content. -/
def isVoid : Datum → Bool
  | null => true
  | flag b => !b
  | number (.integer n) => n == 0
  | number (.binary x) => x.isZero
  | text s => s.isEmpty
  | list items => items.isEmpty
  | mapping entries => entries.isEmpty

/-- The text of a flag. -/
def shownFlag (b : Bool) : String := if b then "True" else "False"

mutual

/-- The value as it stands inside another one: texts are quoted. -/
def quoted : Datum → String
  | null => "None"
  | flag b => shownFlag b
  | number n => n.shown
  | text s => Text.quoted s
  | list items => "[" ++ Text.join ", " (quotedItems items) ++ "]"
  | mapping entries => "\x7b" ++ Text.join ", " (quotedEntries entries) ++ "\x7d"

/-- The items of a list, each quoted. -/
def quotedItems : List Datum → List String
  | [] => []
  | item :: rest => item.quoted :: quotedItems rest

/-- The entries of a mapping, with keys and values quoted. -/
def quotedEntries : List (Datum × Datum) → List String
  | [] => []
  | (key, value) :: rest => (key.quoted ++ ": " ++ value.quoted) :: quotedEntries rest

end

/-- The text of a value. -/
def shown : Datum → String
  | text s => s
  | value => value.quoted

end Datum

end PipeQuery
