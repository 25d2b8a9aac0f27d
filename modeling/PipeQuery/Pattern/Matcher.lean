import PipeQuery.Pattern.Reader
import PipeQuery.Pattern.CaseFold
import PipeQuery.Text.Blank

/-!
# Matching

A node matches by steps that take the rest of the match as a continuation: a
step tries its ways to match one after the other and hands each place it
reaches to the continuation, until that succeeds.  Steps are defined by
recursion on the node.  A repetition that consumes nothing is tried once, so
the length of the text bounds the number of repetitions.
-/

namespace PipeQuery.Pattern

/-- A place in the text, and the groups matched on the way to it. -/
structure MatchState where
  position : Nat
  groups : List (Nat × Nat × Nat)
  deriving DecidableEq

/-- One way to go on from a place: the rest of the match decides. -/
abbrev Step := MatchState → (MatchState → Option MatchState) → Option MatchState

/-- The span of a group that has matched. -/
def MatchState.group? (s : MatchState) (index : Nat) : Option (Nat × Nat) :=
  s.groups.lookup index

/-- The first result that there is. -/
def firstOf (a : Option MatchState) (b : Unit → Option MatchState) : Option MatchState :=
  match a with
  | some r => some r
  | none => b ()

/-! ## Characters -/

/-- An ASCII letter, a digit or a low line. -/
def isAsciiWord (c : Char) : Bool := c.isAlphanum || c == '_'

/-- The character is of the kind; on request only ASCII characters are. -/
def Category.holds (kind : Category) (ascii : Bool) (c : Char) : Bool :=
  match kind with
  | .digit => if ascii then c.isDigit else Text.isDecimal c
  | .space => if ascii then Text.isAsciiBlank c else Text.isBlank c
  | .word => if ascii then isAsciiWord c else Text.isWordChar c

/-- The lower case that matching looks at. -/
def foldCode (ascii : Bool) (code : Nat) : Nat :=
  if ascii then (if 0x41 ≤ code && code ≤ 0x5a then code + 32 else code)
  else Text.lowerCode code

/-- A code point of the pattern has another case. -/
def codeHasCase (ascii : Bool) (code : Nat) : Bool :=
  if ascii then (Char.ofNat code).isAlpha && code < 0x80 else hasCase code

/-- The character is the code point of the pattern. -/
def charMatches (flags : Flags) (code : Nat) (c : Char) : Bool :=
  if flags.ignoreCase && codeHasCase flags.ascii code then
    let folded := foldCode flags.ascii c.toNat
    let wanted := foldCode flags.ascii code
    folded == wanted || (!flags.ascii && (variants wanted).contains folded)
  else c.toNat == code

/-- Some ASCII letter is in the range. -/
def rangeHasAsciiLetter (first last : Nat) : Bool :=
  (max first 0x41 ≤ min last 0x5a) || (max first 0x61 ≤ min last 0x7a)

/-- The member has characters with another case. -/
def SetItem.hasCase (ascii : Bool) : SetItem → Bool
  | range first last => if ascii then rangeHasAsciiLetter first last else rangeHasCase first last
  | category .. => false

/-- The code point, in lower case if the member is to be folded, is in the member. -/
def SetItem.holds (ascii folded : Bool) (code : Nat) : SetItem → Bool
  | range first last =>
    if folded then
      if ascii then
        (first ≤ code && code ≤ last)
          || (0x61 ≤ code && code ≤ 0x7a && first ≤ code - 32 && code - 32 ≤ last)
      else rangeMatchesFolded first last code
    else first ≤ code && code ≤ last
  | category kind negated => kind.holds ascii (Char.ofNat code) != negated

/-- The character is in the set. -/
def setMatches (flags : Flags) (negated : Bool) (items : List SetItem) (c : Char) : Bool :=
  let folded := flags.ignoreCase && items.any (SetItem.hasCase flags.ascii)
  let code := if folded then foldCode flags.ascii c.toNat else c.toNat
  (items.any (SetItem.holds flags.ascii folded code)) != negated

/-! ## Places -/

/-- A word character stands at the position. -/
def wordAt (text : Array Char) (ascii : Bool) (position : Nat) : Bool :=
  (text[position]?).any (Category.word.holds ascii)

/-- A word character stands before the position. -/
def wordBefore (text : Array Char) (ascii : Bool) (position : Nat) : Bool :=
  position != 0 && wordAt text ascii (position - 1)

/-- The position is such a place. -/
def Anchor.holds (text : Array Char) (flags : Flags) (position : Nat) : Anchor → Bool
  | textStart => position == 0
  | lineStart =>
    position == 0 || (flags.multiline && text[position - 1]? == some '\n')
  | lineEnd =>
    position == text.size
      || (text[position]? == some '\n' && (flags.multiline || position + 1 == text.size))
  | textEnd => position == text.size
  | boundary =>
    text.size != 0 && wordBefore text flags.ascii position != wordAt text flags.ascii position
  | notBoundary =>
    text.size != 0 && wordBefore text flags.ascii position == wordAt text flags.ascii position

/-! ## Steps -/

/-- One character with the property. -/
def oneChar (text : Array Char) (p : Char → Bool) : Step := fun s k =>
  match text[s.position]? with
  | some c => if p c then k { s with position := s.position + 1 } else none
  | none => none

/-- The characters from `start` to `stop` stand at the position as well. -/
def sameText (text : Array Char) (flags : Flags) (start stop position : Nat) : Bool :=
  position + (stop - start) ≤ text.size &&
    (List.range (stop - start)).all fun i =>
      match text[start + i]?, text[position + i]? with
      | some a, some b =>
        if flags.ignoreCase then foldCode flags.ascii a.toNat == foldCode flags.ascii b.toNat
        else a == b
      | _, _ => false

/-- The step `body`, `n` times. -/
def times (body : Step) : Nat → Step
  | 0 => fun s k => k s
  | n + 1 => fun s k => body s fun s => times body n s k

/-- The step `body` up to `n` times, many rather than few.  `last` is where
the last time started: there it is not tried again. -/
def manyTimes (body : Step) : Nat → Option Nat → Step
  | 0, _ => fun s k => k s
  | n + 1, last => fun s k =>
    if last == some s.position then k s
    else firstOf (body s fun t => manyTimes body n (some s.position) t k) fun _ => k s

/-- The step `body` up to `n` times, few rather than many. -/
def fewTimes (body : Step) : Nat → Option Nat → Step
  | 0, _ => fun s k => k s
  | n + 1, last => fun s k =>
    firstOf (k s) fun _ =>
      if last == some s.position then none
      else body s fun t => fewTimes body n (some s.position) t k

/-- The first match of `body` and no other. -/
def firstMatch (body : Step) : Step := fun s k => (body s some).bind k

/-- How often a repetition can be tried beyond its least number of times. -/
def extraTimes (text : Array Char) (low : Nat) (high : Option Nat) : Nat :=
  match high with
  | some n => min (n - low) (text.size + 1)
  | none => text.size + 1

/-- A repetition of `body`. -/
def iterated (text : Array Char) (low : Nat) (high : Option Nat) (greed : Greed) (body : Step) :
    Step :=
  let extra := extraTimes text low high
  match greed with
  | .greedy => fun s k => times body low s fun t => manyTimes body extra none t k
  | .lazy => fun s k => times body low s fun t => fewTimes body extra none t k
  | .possessive =>
    let body := firstMatch body
    firstMatch fun s k => times body low s fun t => manyTimes body extra none t k

/-- The ways a node matches at a place. -/
def Node.step (text : Array Char) : Flags → Node → Step
  | _, .empty => fun s k => k s
  | flags, .any => oneChar text fun c => flags.dotAll || c != '\n'
  | flags, .char code => oneChar text (charMatches flags code)
  | flags, .notChar code => oneChar text fun c => !charMatches flags code c
  | flags, .set negated items => oneChar text (setMatches flags negated items)
  | flags, .anchor place => fun s k => if place.holds text flags s.position then k s else none
  | flags, .seq a b => fun s k => a.step text flags s fun t => b.step text flags t k
  | flags, .either a b => fun s k =>
    firstOf (a.step text flags s k) fun _ => b.step text flags s k
  | flags, .group index body => fun s k =>
    body.step text flags s fun t =>
      k { t with groups := (index, s.position, t.position) :: t.groups }
  | flags, .withFlags change body => body.step text (change.apply flags)
  | flags, .reference index _ _ => fun s k =>
    match s.group? index with
    | some (start, stop) =>
      if sameText text flags start stop s.position then
        k { s with position := s.position + (stop - start) }
      else none
    | none => none
  | flags, .look ahead negated body => fun s k =>
    let width := if ahead then 0 else body.width.1
    let found :=
      if s.position < width then none
      else body.step text flags { s with position := s.position - width } some
    if negated then (if found.isNone then k s else none)
    else found.bind fun t => k { t with position := s.position }
  | flags, .iterate low high greed body => iterated text low high greed (body.step text flags)
  | flags, .atomic body => firstMatch (body.step text flags)
  | flags, .conditional index yes no => fun s k =>
    if (s.group? index).isSome then yes.step text flags s k else no.step text flags s k

end PipeQuery.Pattern

namespace PipeQuery

/-- What a pattern has matched. -/
structure Match where
  start : Nat
  stop : Nat
  groups : List (Nat × Nat × Nat)
  deriving DecidableEq

namespace Pattern

/-- The match at a position; on request it must not be empty. -/
def matchAt? (p : Pattern) (text : Array Char) (nonEmpty : Bool) (start : Nat) : Option Match :=
  (p.root.step text p.flags ⟨start, []⟩ fun s =>
      if nonEmpty && s.position == start then none else some s).map
    fun s => ⟨start, s.position, s.groups⟩

/-- The first match among the next `n` positions. -/
def searchNext? (p : Pattern) (text : Array Char) (start : Nat) : Nat → Option Match
  | 0 => none
  | n + 1 =>
    match p.matchAt? text false start with
    | some m => some m
    | none => p.searchNext? text (start + 1) n

/-- The first match from a position on; at that position itself it must not be
empty if `nonEmpty` is set. -/
def searchFrom? (p : Pattern) (text : Array Char) (nonEmpty : Bool) (start : Nat) : Option Match :=
  match p.matchAt? text nonEmpty start with
  | some m => some m
  | none => p.searchNext? text (start + 1) (text.size - start)

/-- The first match anywhere. -/
def search? (p : Pattern) (text : String) : Option Match :=
  p.searchFrom? text.toList.toArray false 0

/-- The pattern matches somewhere in the text. -/
def occursIn (p : Pattern) (text : String) : Bool := (p.search? text).isSome

/-- The matches one after the other: each starts where the last one stopped,
and after an empty match the next at that place is not empty. -/
def spansFrom (p : Pattern) (text : Array Char) (nonEmpty : Bool) (start : Nat) :
    Nat → List (Nat × Nat)
  | 0 => []
  | fuel + 1 =>
    match p.searchFrom? text nonEmpty start with
    | none => []
    | some m => (m.start, m.stop) :: p.spansFrom text (m.start == m.stop) m.stop fuel

/-- The spans of all matches. -/
def spans (p : Pattern) (text : Array Char) : List (Nat × Nat) :=
  p.spansFrom text false 0 (2 * text.size + 2)

/-- The text from `position` on with `image` in the place of each span. -/
def replaceSpans (image : List Char) (text : List Char) (position : Nat) :
    List (Nat × Nat) → List Char
  | [] => text.drop position
  | (start, stop) :: rest =>
    (text.drop position).take (start - position) ++ (image ++ replaceSpans image text stop rest)

/-- Every match replaced by `image`. -/
def replaceAll (p : Pattern) (image text : String) : String :=
  String.ofList
    (replaceSpans image.toList text.toList 0 (p.spans text.toList.toArray))

/-- The text of a match, or of its first group if the pattern has groups. -/
def extract? (p : Pattern) (text : String) : Option String :=
  (p.search? text).bind fun m =>
    let span := if p.groups = 0 then some (m.start, m.stop) else m.groups.lookup 1
    span.map fun s => String.ofList ((text.toList.drop s.1).take (s.2 - s.1))

end Pattern

end PipeQuery
