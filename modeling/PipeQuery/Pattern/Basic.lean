/-!
# Patterns

The syntax of regular expressions: characters and sets of them, anchors,
sequence and alternation, groups and references to them, repetition, and
looking ahead and behind.  `Node.width` bounds the lengths that a node
matches, which tells whether it can stand in a look-behind.
-/

namespace PipeQuery.Pattern

/-- Kinds of characters. -/
inductive Category where
  | digit
  | space
  | word
  deriving DecidableEq

/-- A member of a set of characters. -/
inductive SetItem where
  /-- The code points from `first` to `last`. -/
  | range (first last : Nat)
  /-- The characters of a kind, or all others. -/
  | category (kind : Category) (negated : Bool)
  deriving DecidableEq

/-- Places in a text. -/
inductive Anchor where
  /-- The start of the text. -/
  | textStart
  /-- The start of the text, or of a line when lines are told apart. -/
  | lineStart
  /-- The end of the text, also before a last line feed, or the end of a line
  when lines are told apart. -/
  | lineEnd
  /-- The end of the text. -/
  | textEnd
  /-- Between a word and what is not a word. -/
  | boundary
  /-- Anywhere else. -/
  | notBoundary
  deriving DecidableEq

/-- How a pattern is read and matched. -/
structure Flags where
  ignoreCase : Bool
  multiline : Bool
  dotAll : Bool
  verbose : Bool
  /-- The characters of ASCII are told apart from all others. -/
  ascii : Bool
  /-- The repertoire of all characters is asked for by name. -/
  unicode : Bool
  /-- The pattern is a template, in which nothing is repeated. -/
  template : Bool
  deriving DecidableEq

/-- No flag is set. -/
def Flags.none : Flags := ⟨false, false, false, false, false, false, false⟩

/-- One of the flags, by its letter. -/
inductive Flag where
  | ignoreCase
  | locale
  | multiline
  | dotAll
  | verbose
  | ascii
  | template
  | unicode
  deriving DecidableEq

/-- The flag of a letter. -/
def Flag.ofLetter? : Char → Option Flag
  | 'i' => some .ignoreCase
  | 'L' => some .locale
  | 'm' => some .multiline
  | 's' => some .dotAll
  | 'x' => some .verbose
  | 'a' => some .ascii
  | 't' => some .template
  | 'u' => some .unicode
  | _ => .none

/-- Flags that name a repertoire of characters. -/
def Flag.isRepertoire : Flag → Bool
  | .ascii | .locale | .unicode => true
  | _ => false

/-- Sets or clears a flag. -/
def Flags.set (flags : Flags) (value : Bool) : Flag → Flags
  | .ignoreCase => { flags with ignoreCase := value }
  | .multiline => { flags with multiline := value }
  | .dotAll => { flags with dotAll := value }
  | .verbose => { flags with verbose := value }
  | .ascii => { flags with ascii := value }
  | .unicode => { flags with unicode := value }
  | .template => { flags with template := value }
  | .locale => flags

/-- Sets several flags. -/
def Flags.setAll (flags : Flags) (added : List Flag) : Flags :=
  added.foldl (fun f flag => f.set true flag) flags

/-- Flags set and cleared for a part of a pattern. -/
structure FlagChange where
  added : List Flag
  removed : List Flag
  deriving DecidableEq

/-- The flags inside the part; a repertoire takes the place of another. -/
def FlagChange.apply (change : FlagChange) (flags : Flags) : Flags :=
  let flags :=
    if change.added.any Flag.isRepertoire then { flags with ascii := false, unicode := false }
    else flags
  change.removed.foldl (fun f flag => f.set false flag) (flags.setAll change.added)

/-- Which of several repetitions is tried first. -/
inductive Greed where
  | greedy
  | lazy
  /-- As many as possible, and never fewer afterwards. -/
  | possessive
  deriving DecidableEq

/-- A regular expression. -/
inductive Node where
  | empty
  /-- Any character, line feeds only on request. -/
  | any
  | char (code : Nat)
  | notChar (code : Nat)
  | set (negated : Bool) (items : List SetItem)
  | anchor (place : Anchor)
  | seq (first second : Node)
  | either (first second : Node)
  /-- A group whose text is kept. -/
  | group (index : Nat) (body : Node)
  /-- A part under other flags. -/
  | withFlags (change : FlagChange) (body : Node)
  /-- The text of a group again; `least` and `most` bound its length. -/
  | reference (index : Nat) (least : Nat) (most : Option Nat)
  /-- What follows or comes before must match, or must not. -/
  | look (ahead : Bool) (negated : Bool) (body : Node)
  | iterate (low : Nat) (high : Option Nat) (greed : Greed) (body : Node)
  /-- The first match of the part and no other. -/
  | atomic (body : Node)
  /-- One of two parts, by whether a group has matched. -/
  | conditional (index : Nat) (yes no : Node)
  deriving DecidableEq

namespace Node

/-- A condition on the place, which takes no character. -/
def isAnchor : Node → Bool
  | anchor _ => true
  | _ => false

/-- A repeat. -/
def isIterate : Node → Bool
  | iterate .. => true
  | _ => false

/-- The nodes one after the other. -/
def sequence : List Node → Node
  | [] => empty
  | [node] => node
  | node :: rest => seq node (sequence rest)

/-- The first of the nodes that matches. -/
def alternatives : List Node → Node
  | [] => empty
  | [node] => node
  | node :: rest => either node (alternatives rest)

/-- The greater of two bounds; `none` is no bound. -/
def widest (a b : Option Nat) : Option Nat :=
  a.bind fun x => b.map fun y => max x y

/-- The least and the greatest length of what the node matches. -/
def width : Node → Nat × Option Nat
  | empty | anchor _ | look .. => (0, some 0)
  | any | char _ | notChar _ | set .. => (1, some 1)
  | seq a b => (a.width.1 + b.width.1, a.width.2.bind fun x => b.width.2.map (x + ·))
  | either a b => (min a.width.1 b.width.1, widest a.width.2 b.width.2)
  | group _ body | withFlags _ body | atomic body => body.width
  | reference _ least most => (least, most)
  | iterate low high _ body =>
    (body.width.1 * low,
      match body.width.2, high with
      | some 0, _ => some 0
      | some most, some count => some (most * count)
      | _, _ => none)
  | conditional _ yes no => (min yes.width.1 no.width.1, widest yes.width.2 no.width.2)

end Node

end PipeQuery.Pattern
