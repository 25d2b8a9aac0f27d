import PipeQuery.Pattern.Basic
import PipeQuery.Platform.Basic
import PipeQuery.Text.Identifier
import PipeQuery.Text.Find

/-!
# Reading patterns

A pattern is read in one pass, token by token: a token is a character, or a
backslash with the character behind it.  The reader keeps the groups opened so
far, with the widths of those that are closed, and the flags set at the start.
Every call of `sequence` or `alternatives` either consumes a token or hands
over to the other, so twice the length of the text bounds their depth.
-/

namespace PipeQuery.Pattern

/-- A character, or a backslash and the character behind it. -/
structure Token where
  escaped : Bool
  char : Char
  deriving DecidableEq

/-- The characters of the token. -/
def Token.chars (t : Token) : List Char := if t.escaped then ['\\', t.char] else [t.char]

/-- The text of the token. -/
def Token.text (t : Token) : String := String.ofList t.chars

/-- How many characters the token has. -/
def Token.length (t : Token) : Nat := if t.escaped then 2 else 1

/-- The token is this character by itself. -/
def Token.is (t : Token) (c : Char) : Bool := !t.escaped && t.char == c

/-- Where the reader stands and what it has learned. -/
structure Cursor where
  /-- What is still to be read. -/
  rest : List Char
  /-- The position of `rest` in the pattern. -/
  position : Nat
  flags : Flags
  /-- The numbers of the named groups. -/
  names : List (String × Nat)
  /-- The width of each group from the first on; `none` while it is open. -/
  groups : List (Option (Nat × Option Nat))
  /-- Inside a look-behind, the number of groups opened before it. -/
  lookbehindGroups : Option Nat
  /-- Groups that conditions name by number, with the place of the first mention. -/
  mentioned : List (Nat × Nat)

/-- A step of reading a pattern. -/
abbrev ReadM := StateT Cursor (Except Fault)

/-- Fails at a position `back` characters before the next token. -/
def failAt {α : Type} (cause : Cause) (back : Nat) : ReadM α := do
  throw (.invalid cause (some ((← get).position - back)))

/-- Fails at the next token. -/
def failHere {α : Type} (cause : Cause) : ReadM α := failAt cause 0

/-- The next token. -/
def nextToken (cs : List Char) : Option Token :=
  match cs with
  | [] => none
  | '\\' :: c :: _ => some ⟨true, c⟩
  | c :: _ => some ⟨false, c⟩

/-- The next token, which is not taken. -/
def peek : ReadM (Option Token) := do return nextToken (← get).rest

/-- The number of the next group to be opened. -/
def nextGroup : ReadM Nat := do return (← get).groups.length + 1

/-- Refuses a single backslash at the end. -/
def checkEnd : ReadM Unit := do
  let cursor ← get
  if cursor.rest == ['\\'] then throw (.invalid .escapeAtEnd (some cursor.position))

/-- Goes on behind a number of characters. -/
def skip (n : Nat) : ReadM Unit := do
  modify fun c => { c with rest := c.rest.drop n, position := c.position + n }
  checkEnd

/-- Takes the next token. -/
def advance : ReadM (Option Token) := do
  match ← peek with
  | none => return none
  | some t =>
    skip t.length
    return some t

/-- Takes the next token if it is the character `c`. -/
def accept (c : Char) : ReadM Bool := do
  match ← peek with
  | some t =>
    if t.is c then
      skip 1
      return true
    else return false
  | none => return false

/-- The next token is a character by itself with property `p`. -/
def nextIs (p : Char → Bool) : ReadM Bool := do
  match ← peek with
  | some t => return !t.escaped && p t.char
  | none => return false

/-- Takes up to `n` characters with property `p`. -/
def takeUpTo (p : Char → Bool) : Nat → ReadM (List Char)
  | 0 => return []
  | n + 1 => do
    if ← nextIs p then
      match ← advance with
      | some t => return t.char :: (← takeUpTo p n)
      | none => return []
    else return []

/-- Takes all the characters with property `p` that come next. -/
def takeAll (p : Char → Bool) : ReadM (List Char) := do
  takeUpTo p (← get).rest.length

/-- Reads a name up to `mark`; `seen` is what has been read. -/
def nameFrom (mark : Char) (what : String) (seen : List Char) : Nat → ReadM (List Char)
  | 0 => return seen
  | n + 1 => do
    match ← advance with
    | none =>
      if seen.isEmpty then failHere (.missingName what)
      else failAt (.unterminatedName mark) seen.length
    | some t =>
      if t.is mark then
        if seen.isEmpty then failAt (.missingName what) 1 else return seen
      else nameFrom mark what (seen ++ t.chars) n

/-- Reads a name up to `mark`. -/
def readName (mark : Char) (what : String) : ReadM (List Char) := do
  nameFrom mark what [] ((← get).rest.length + 1)

/-- A digit to the base 8. -/
def isOctal (c : Char) : Bool := '0' ≤ c && c ≤ '7'

/-- A digit to the base 16. -/
def isHex (c : Char) : Bool :=
  c.isDigit || ('a' ≤ c && c ≤ 'f') || ('A' ≤ c && c ≤ 'F')

/-- The value of a digit to the base 16. -/
def hexValue (c : Char) : Nat :=
  if c.isDigit then c.toNat - 0x30 else if 'a' ≤ c then c.toNat - 0x57 else c.toNat - 0x37

/-- The number that digits spell in a base. -/
def valueOf (base : Nat) (digits : List Char) : Nat :=
  digits.foldl (fun n c => base * n + hexValue c) 0

/-! ## Escapes -/

/-- The control characters with a letter of their own. -/
def controlCode? : Char → Option Nat
  | 'a' => some 0x7
  | 'f' => some 0xc
  | 'n' => some 0xa
  | 'r' => some 0xd
  | 't' => some 0x9
  | 'v' => some 0xb
  | '\\' => some 0x5c
  | _ => none

/-- The kinds of characters with a letter, a capital for all others. -/
def category? : Char → Option (Category × Bool)
  | 'd' => some (.digit, false)
  | 'D' => some (.digit, true)
  | 's' => some (.space, false)
  | 'S' => some (.space, true)
  | 'w' => some (.word, false)
  | 'W' => some (.word, true)
  | _ => none

/-- The text of an escape. -/
def escapeText (c : Char) (digits : List Char) : String := String.ofList ('\\' :: c :: digits)

/-- Reads exactly `n` hexadecimal digits behind the letter `c`. -/
def hexEscape (c : Char) (n : Nat) : ReadM Nat := do
  let digits ← takeUpTo isHex n
  if digits.length < n then
    failAt (.incompleteEscape (escapeText c digits)) (digits.length + 2)
  let code := valueOf 16 digits
  if 0x10ffff < code then failAt (.badEscape (escapeText c digits)) (digits.length + 2)
  return code

/-- An octal escape of the digits behind the backslash. -/
def octalEscape (c : Char) (digits : List Char) : ReadM Nat := do
  let code := valueOf 8 (c :: digits)
  if 0o377 < code then
    failAt (.octalTooLarge (escapeText c digits)) (digits.length + 2)
  return code

/-- A character by its name. -/
def namedEscape [Platform] : ReadM Nat := do
  if ← accept '\x7b' then
    let name ← readName '\x7d' "character name"
    match Platform.character? (String.ofList name) with
    | some c => return c.toNat
    | none => failAt (.unknownCharacterName (String.ofList name)) (name.length + 4)
  else failHere .missingBrace

/-- The escapes for one character that a set and a pattern have in common,
behind the backslash and `c`. -/
def charEscape [Platform] (c : Char) : ReadM Nat := do
  if c == 'x' then hexEscape c 2
  else if c == 'u' then hexEscape c 4
  else if c == 'U' then hexEscape c 8
  else if c == 'N' then namedEscape
  else if c.isAlpha then failAt (.badEscape (escapeText c [])) 2
  else return c.toNat

/-- An escape inside a set. -/
def setEscape [Platform] (c : Char) : ReadM SetItem := do
  match controlCode? c, category? c with
  | some code, _ => return .range code code
  | _, some (kind, negated) => return .category kind negated
  | _, _ =>
    if c == 'b' then return .range 0x8 0x8
    if isOctal c then
      let digits ← takeUpTo isOctal 2
      let code ← octalEscape c digits
      return .range code code
    if c.isDigit then failAt (.badEscape (escapeText c [])) 2
    let code ← charEscape c
    return .range code code

/-- The group may be referred to here. -/
def checkLookbehind (group : Nat) : ReadM Unit := do
  let cursor ← get
  match cursor.lookbehindGroups with
  | none => return
  | some before =>
    if ((cursor.groups[group - 1]?).join).isNone then failHere .openGroupReference
    if before < group then failHere .lookbehindReference

/-- A reference to a closed group, written over `back` characters. -/
def reference (group back : Nat) : ReadM Node := do
  match ((← get).groups[group - 1]?).join with
  | none => failAt .openGroupReference back
  | some width =>
    checkLookbehind group
    return .reference group width.1 width.2

/-- A reference by number, or an octal escape of three digits. -/
def numberEscape (c : Char) : ReadM Node := do
  let second ← takeUpTo Char.isDigit 1
  let third ←
    if isOctal c && !second.isEmpty && second.all isOctal then takeUpTo isOctal 1 else pure []
  if !third.isEmpty then return .char (← octalEscape c (second ++ third))
  let group := valueOf 10 (c :: second)
  if group < (← nextGroup) then reference group (second.length + 2)
  else failAt (.invalidReference group) (second.length + 1)

/-- An escape outside a set. -/
def escape [Platform] (c : Char) : ReadM Node := do
  match category? c, controlCode? c with
  | some (kind, negated), _ => return .set false [.category kind negated]
  | _, some code => return .char code
  | _, _ =>
    if c == 'A' then return .anchor .textStart
    if c == 'Z' then return .anchor .textEnd
    if c == 'b' then return .anchor .boundary
    if c == 'B' then return .anchor .notBoundary
    if c == '0' then return .char (valueOf 8 (← takeUpTo isOctal 2))
    if c.isDigit then numberEscape c
    else return .char (← charEscape c)

/-! ## Sets -/

/-- A member of a set: a token by itself or an escape. -/
def setMember [Platform] (t : Token) : ReadM SetItem :=
  if t.escaped then setEscape t.char else return .range t.char.toNat t.char.toNat

/-- Both members of a set can bound a range. -/
def rangeOf? : SetItem → SetItem → Option SetItem
  | .range a b, .range c d => if a = b ∧ c = d ∧ a ≤ c then some (.range a c) else none
  | _, _ => none

/-- Reads the members of a set that starts at position `start`, up to its
closing bracket. -/
def setItems [Platform] (start : Nat) (items : List SetItem) : Nat → ReadM (List SetItem)
  | 0 => return items
  | n + 1 => do
    let unterminated : ReadM (List SetItem) := do
      throw (.invalid .unterminatedSet (some start))
    match ← advance with
    | none => unterminated
    | some first =>
      if first.is ']' && !items.isEmpty then return items
      let low ← setMember first
      if ← accept '-' then
        match ← advance with
        | none => unterminated
        | some last =>
          if last.is ']' then return items ++ [low, .range 0x2d 0x2d]
          let high ← setMember last
          match rangeOf? low high with
          | some item => setItems start (items ++ [item]) n
          | none => failAt (.badRange first.text last.text) (first.length + 1 + last.length)
      else setItems start (items ++ [low]) n

/-- A set with one character is that character. -/
def setNode (negated : Bool) (items : List SetItem) : Node :=
  match items with
  | [.range a b] =>
    if a = b then (if negated then .notChar a else .char a) else .set negated items
  | _ => .set negated items

/-- Reads a set behind its opening bracket. -/
def readSet [Platform] : ReadM Node := do
  let start := (← get).position - 1
  let negated ← accept '^'
  let items ← setItems start [] ((← get).rest.length + 1)
  return setNode negated items.eraseDups

/-! ## Repetition -/

/-- The numbers of repetitions are below this one. -/
def repeatLimit : Nat := 4294967295

/-- The number of repetitions in some digits. -/
def countOf (digits : List Char) : ReadM Nat := do
  if maxIntegerDigits < digits.length then throw (.countTooLong (String.ofList digits))
  let count := valueOf 10 digits
  if repeatLimit ≤ count then throw .repeatTooLarge
  return count

/-- Reads the bounds behind an opening brace; without a closing brace the
brace stands for itself. -/
def braceBounds? : ReadM (Option (Nat × Option Nat)) := do
  if ← nextIs (· == '\x7d') then return none
  let start ← get
  let low ← takeAll Char.isDigit
  let high ← if ← accept ',' then takeAll Char.isDigit else pure low
  if ← accept '\x7d' then
    let least ← countOf low
    let most ← if high.isEmpty then pure none else some <$> countOf high
    if most.any (· < least) then
      throw (.invalid .repeatBoundsReversed (some start.position))
    return some (least, most)
  else
    set start
    return none

/-- How the repetition is to be tried. -/
def readGreed : ReadM Greed := do
  if ← accept '?' then return .lazy
  else if ← accept '+' then return .possessive
  else return .greedy

/-- The bounds of a repetition that starts with `c`. -/
def repeatBounds? (c : Char) : ReadM (Option (Nat × Option Nat)) := do
  if c == '?' then return some (0, some 1)
  else if c == '*' then return some (0, none)
  else if c == '+' then return some (1, none)
  else braceBounds?

/-- Repeats the last of the nodes read so far (the first of `items`); `start`
is the position behind the sign of repetition. -/
def repeatLast (start : Nat) (bounds : Nat × Option Nat) (items : List Node) :
    ReadM (List Node) := do
  let fail (cause : Cause) : ReadM (List Node) := throw (.invalid cause (some (start - 1)))
  match items with
  | [] => fail .nothingToRepeat
  | item :: before =>
    if item.isAnchor then fail .nothingToRepeat
    else if item.isIterate then fail .multipleRepeat
    else return .iterate bounds.1 bounds.2 (← readGreed) item :: before

/-! ## Groups -/

/-- How the inside of a parenthesis is to be taken. -/
inductive GroupKind where
  | capturing (name : Option (List Char))
  | plain (change : FlagChange)
  | atomic
  | look (ahead negated : Bool)
  | conditional (group : Nat)
  /-- Read already; it matches as the node, if there is one. -/
  | done (node : Option Node)

/-- A token that names a flag. -/
def flagOf? (t : Token) : Option Flag := if t.escaped then none else Flag.ofLetter? t.char

/-- Fails for a token that should have been a flag. -/
def failFlag {α : Type} (t : Token) (otherwise : Cause) : ReadM α :=
  failAt (if !t.escaped && Text.isAlphanumeric t.char && !Text.isAnyDigit t.char then .unknownFlag
    else otherwise) t.length

/-- Reads the flags to set, from the token `t` on, and the token behind them. -/
def addedFlags (added : List Flag) (t : Token) : Nat → ReadM (List Flag × Token)
  | 0 => return (added, t)
  | n + 1 => do
    match flagOf? t with
    | none => failFlag t .missingFlagEnd
    | some flag =>
      if flag == .locale then failHere .localeFlag
      let added := added ++ [flag]
      if flag.isRepertoire && added.any (fun f => f.isRepertoire && f != flag) then
        failHere .incompatibleFlags
      match ← advance with
      | none => failHere .missingFlagEnd
      | some t =>
        if t.is ')' || t.is '-' || t.is ':' then return (added, t)
        else addedFlags added t n

/-- Reads the flags to clear, from the token `t` on, up to a colon. -/
def removedFlags (removed : List Flag) (t : Token) : Nat → ReadM (List Flag)
  | 0 => return removed
  | n + 1 => do
    match flagOf? t with
    | none => failFlag t (if removed.isEmpty then .missingFlag else .missingColon)
    | some flag =>
      if flag.isRepertoire then failHere .repertoireFlagOff
      let removed := removed ++ [flag]
      match ← advance with
      | none => failHere .missingColon
      | some t => if t.is ':' then return removed else removedFlags removed t n

/-- Flags for the whole pattern, or for the inside of a parenthesis. -/
inductive FlagScope where
  | pattern
  | inside (change : FlagChange)

/-- Reads flags, from the token `t` on. -/
def readFlags (t : Token) : ReadM FlagScope := do
  let length := (← get).rest.length + 2
  let (added, stop) ← if t.is '-' then pure ([], t) else addedFlags [] t length
  if stop.is ')' then
    modify fun c => { c with flags := c.flags.setAll added }
    return .pattern
  if added.contains .template then failAt .globalFlagOn 1
  let removed ←
    if stop.is '-' then
      match ← advance with
      | none => failHere .missingFlag
      | some t => removedFlags [] t length
    else pure []
  if removed.contains .template then failAt .globalFlagOff 1
  if added.any removed.contains then failAt .flagOnAndOff 1
  return .inside ⟨added, removed⟩

/-- Passes over a comment in a parenthesis that opened at position `start`. -/
def skipComment (start : Nat) : Nat → ReadM Unit
  | 0 => return
  | n + 1 => do
    match ← advance with
    | none => throw (.invalid .unterminatedComment (some start))
    | some t => if t.is ')' then return else skipComment start n

/-- The number of a named group, whose name ended `back` characters before. -/
def groupNamed (name : List Char) : ReadM Nat := do
  match (← get).names.lookup (String.ofList name) with
  | some group => return group
  | none => failAt (.unknownGroupName (String.ofList name)) (name.length + 1)

/-- Fails unless the name of a group is an identifier. -/
def checkGroupName (name : List Char) : ReadM Unit := do
  if !Text.isIdentifier name then
    failAt (.badGroupName (String.ofList name)) (name.length + 1)

/-- The numbers of groups are below this one. -/
def groupLimit : Nat := 1073741823

/-- The group that a condition names, by name or by number. -/
def conditionGroup : ReadM Nat := do
  let name ← readName ')' "group name"
  let group ←
    if Text.isIdentifier name then groupNamed name
    else
      match readInteger name with
      | .ok (.ofNat group) =>
        if group = 0 then failAt .badGroupNumber (name.length + 1)
        if groupLimit ≤ group then failAt (.invalidReference group) (name.length + 1)
        let place := (← get).position - (name.length + 1)
        modify fun c =>
          if c.mentioned.any (·.1 == group) then c
          else { c with mentioned := c.mentioned ++ [(group, place)] }
        pure group
      | _ => failAt (.badGroupName (String.ofList name)) (name.length + 1)
  checkLookbehind group
  return group

/-- Reads what stands behind `(?`, in a parenthesis that opened at position
`start`; `first` says that nothing stands before it. -/
def readExtension (start : Nat) (first : Bool) : ReadM GroupKind := do
  match ← advance with
  | none => failHere .unexpectedEnd
  | some t =>
    if t.is 'P' then
      if ← accept '<' then
        let name ← readName '>' "group name"
        checkGroupName name
        return .capturing (some name)
      if ← accept '=' then
        let name ← readName ')' "group name"
        checkGroupName name
        let group ← groupNamed name
        return .done (some (← reference group (name.length + 1)))
      match ← advance with
      | none => failHere .unexpectedEnd
      | some t => failAt (.unknownExtension ("P" ++ t.text)) (t.length + 2)
    else if t.is ':' then return .plain ⟨[], []⟩
    else if t.is '#' then
      skipComment start ((← get).rest.length + 1)
      return .done none
    else if t.is '=' then return .look true false
    else if t.is '!' then return .look true true
    else if t.is '<' then
      match ← advance with
      | none => failHere .unexpectedEnd
      | some t =>
        if t.is '=' then return .look false false
        else if t.is '!' then return .look false true
        else failAt (.unknownExtension ("<" ++ t.text)) (t.length + 2)
    else if t.is '(' then return .conditional (← conditionGroup)
    else if t.is '>' then return .atomic
    else if t.is '-' || (flagOf? t).isSome then
      match ← readFlags t with
      | .inside change => return .plain change
      | .pattern =>
        if first then return .done none
        else throw (.invalid .lateFlags (some start))
    else failAt (.unknownExtension t.text) (t.length + 1)

/-- Opens a group and gives its number. -/
def openGroup (name : Option (List Char)) : ReadM Nat := do
  let group ← nextGroup
  match name with
  | none => pure ()
  | some name =>
    match (← get).names.lookup (String.ofList name) with
    | some earlier => failAt (.groupRedefined (String.ofList name) group earlier) (name.length + 1)
    | none => modify fun c => { c with names := c.names ++ [(String.ofList name, group)] }
  modify fun c => { c with groups := c.groups ++ [none] }
  return group

/-- Notes the width of a group that ends. -/
def closeGroup (group : Nat) (body : Node) : ReadM Unit :=
  modify fun c => { c with groups := c.groups.set (group - 1) (some body.width) }

/-- Takes the closing parenthesis of one that opened at position `start`. -/
def closeParenthesis (start : Nat) : ReadM Unit := do
  if !(← accept ')') then throw (.invalid .unterminatedGroup (some start))

/-- Passes over the rest of a line. -/
def skipLine : Nat → ReadM Unit
  | 0 => return
  | n + 1 => do
    match ← advance with
    | none => return
    | some t => if t.is '\n' then return else skipLine n

/-! ## Sequences and alternatives -/

/-- `verbose` is set by the change or was set before it. -/
def verboseUnder (change : FlagChange) (verbose : Bool) : Bool :=
  (verbose || change.added.contains .verbose) && !change.removed.contains .verbose

mutual

/-- Reads the nodes up to a bar, a closing parenthesis or the end; `items` are
those already read, the last one first.  `outer` says that flags for the whole
pattern may still come. -/
def readSequence [Platform] (outer verbose : Bool) (items : List Node) : Nat → ReadM (List Node)
  | 0 => return items.reverse
  | fuel + 1 => do
    match ← peek with
    | none => return items.reverse
    | some t =>
      if t.is '|' || t.is ')' then return items.reverse
      let _ ← advance
      if verbose && !t.escaped && Text.isAsciiBlank t.char then
        readSequence outer verbose items fuel
      else if verbose && t.is '#' then
        skipLine ((← get).rest.length + 1)
        readSequence outer verbose items fuel
      else if t.escaped then
        readSequence outer verbose ((← escape t.char) :: items) fuel
      else if t.char == '[' then
        readSequence outer verbose ((← readSet) :: items) fuel
      else if t.char == '.' then readSequence outer verbose (.any :: items) fuel
      else if t.char == '^' then readSequence outer verbose (.anchor .lineStart :: items) fuel
      else if t.char == '$' then readSequence outer verbose (.anchor .lineEnd :: items) fuel
      else if t.char == '*' || t.char == '+' || t.char == '?' || t.char == '\x7b' then
        let start := (← get).position
        match ← repeatBounds? t.char with
        | none => readSequence outer verbose (.char t.char.toNat :: items) fuel
        | some bounds =>
          readSequence outer verbose (← repeatLast start bounds items) fuel
      else if t.char == '(' then
        let start := (← get).position - 1
        let kind ←
          if ← accept '?' then readExtension start (outer && items.isEmpty)
          else pure (.capturing none)
        let node ← readGroup start verbose kind fuel
        let flags := (← get).flags
        -- flags for the whole pattern hold from here on
        readSequence outer (verbose || (outer && items.isEmpty && flags.verbose))
          (node.toList ++ items) fuel
      else readSequence outer verbose (.char t.char.toNat :: items) fuel

/-- Reads the inside of a parenthesis and its end. -/
def readGroup [Platform] (start : Nat) (verbose : Bool) (kind : GroupKind) :
    Nat → ReadM (Option Node)
  | 0 => return none
  | fuel + 1 => do
    match kind with
    | .done node => return node
    | .capturing name =>
      let group ← openGroup name
      let body ← readAlternatives false verbose fuel
      closeParenthesis start
      closeGroup group body
      return some (.group group body)
    | .plain change =>
      let body ← readAlternatives false (verboseUnder change verbose) fuel
      closeParenthesis start
      return some (.withFlags change body)
    | .atomic =>
      let body ← readAlternatives false verbose fuel
      closeParenthesis start
      return some (.atomic body)
    | .look ahead negated =>
      let before := (← get).lookbehindGroups
      if !ahead && before.isNone then
        modify fun c => { c with lookbehindGroups := some c.groups.length }
      let body ← readAlternatives false verbose fuel
      if !ahead && before.isNone then modify fun c => { c with lookbehindGroups := none }
      closeParenthesis start
      return some (.look ahead negated body)
    | .conditional group =>
      let yes ← readSequence false verbose [] fuel
      let no ←
        if ← accept '|' then
          let no ← readSequence false verbose [] fuel
          if ← nextIs (· == '|') then failHere .tooManyBranches
          pure no
        else pure []
      closeParenthesis start
      return some (.conditional group (.sequence yes) (.sequence no))

/-- Reads sequences with bars between them. -/
def readAlternatives [Platform] (outermost verbose : Bool) : Nat → ReadM Node
  | 0 => return .empty
  | fuel + 1 => do
    let first ← readSequence outermost verbose [] fuel
    let rest ← readBranches outermost verbose fuel
    return .alternatives (.sequence first :: rest)

/-- Reads the sequences that follow further bars. -/
def readBranches [Platform] (outermost verbose : Bool) : Nat → ReadM (List Node)
  | 0 => return []
  | fuel + 1 => do
    if ← accept '|' then
      let flags := (← get).flags
      let verbose := if outermost then flags.verbose else verbose
      let next ← readSequence false verbose [] fuel
      return .sequence next :: (← readBranches outermost verbose fuel)
    else return []

end

/-! ## Whole patterns -/

/-- The name of a repetition in messages. -/
def Greed.operator : Greed → String
  | .greedy => "MAX_REPEAT"
  | .lazy => "MIN_REPEAT"
  | .possessive => "POSSESSIVE_REPEAT"

/-- Every look-behind in the node has one length, and nothing in a template is
repeated. -/
def Node.check (template : Bool) : Node → Except Fault Unit
  | .look ahead _ body => do
    if !ahead then
      if repeatLimit < body.width.1 then throw (.invalid .lookbehindTooLong none)
      if body.width.2 != some body.width.1 then throw (.invalid .variableLookbehind none)
    body.check template
  | .seq a b | .either a b | .conditional _ a b => do
    a.check template
    b.check template
  | .iterate _ _ greed body => do
    if template then throw (.invalid (.repeatInTemplate greed.operator) none)
    body.check template
  | .group _ body | .withFlags _ body | .atomic body => body.check template
  | _ => return

/-- Reads a whole pattern. -/
def readPattern [Platform] : ReadM Node := do
  checkEnd
  let length := (← get).rest.length
  let node ← readAlternatives true false (4 * length + 8)
  let cursor ← get
  if cursor.flags.ascii && cursor.flags.unicode then throw .bothRepertoires
  if (← peek).isSome then failHere .unbalancedParenthesis
  match cursor.mentioned.find? fun m => cursor.groups.length < m.1 with
  | some (group, place) => throw (.invalid (.invalidReference group) (some place))
  | none => return node

end PipeQuery.Pattern

namespace PipeQuery

/-- A pattern that has been read. -/
structure Pattern where
  source : String
  flags : Pattern.Flags
  /-- The number of groups. -/
  groups : Nat
  root : Pattern.Node
  deriving DecidableEq

namespace Pattern

variable [Platform]

/-- Reads a pattern that fits on the stack. -/
def parse (source : String) : Except Fault Pattern :=
  match readPattern.run ⟨source.toList, 0, .none, [], [], none, []⟩ with
  | .error fault => .error fault
  | .ok (root, cursor) =>
    match root.check cursor.flags.template with
    | .error fault => .error fault
    | .ok () => .ok ⟨source, cursor.flags, cursor.groups.length, root⟩

/-- Reads a pattern. -/
def read (source : String) : Except Failure Pattern :=
  if Platform.outgrownBy source then .error .tooDeep
  else
    match parse source with
    | .ok p => .ok p
    | .error fault => .error (.fault fault)

/-- Reads the pattern of a stage. -/
def readFor (stage source : String) : Except PipeQuery.Fault Pattern :=
  (read source).mapError (.ofPattern stage source)

end Pattern

end PipeQuery
