import PipeQuery.Text.Quoted
import PipeQuery.Number.Shown

/-!
# Faulty patterns

Why a text is no pattern, where, and what is said of it.
-/

namespace PipeQuery.Pattern

/-- What is wrong with a pattern. -/
inductive Cause where
  | badEscape (escape : String)
  | escapeAtEnd
  | incompleteEscape (escape : String)
  | octalTooLarge (escape : String)
  | missingBrace
  | unknownCharacterName (name : String)
  | unterminatedSet
  | badRange (first last : String)
  | nothingToRepeat
  | multipleRepeat
  | repeatBoundsReversed
  | unbalancedParenthesis
  | unterminatedGroup
  | unterminatedComment
  | unexpectedEnd
  | unknownExtension (text : String)
  | missingName (what : String)
  | unterminatedName (mark : Char)
  | badGroupName (name : String)
  | unknownGroupName (name : String)
  | badGroupNumber
  | invalidReference (group : Nat)
  | openGroupReference
  | lookbehindReference
  | groupRedefined (name : String) (group first : Nat)
  | tooManyBranches
  | lateFlags
  | unknownFlag
  | missingFlagEnd
  | missingFlag
  | missingColon
  | localeFlag
  | incompatibleFlags
  | globalFlagOn
  | globalFlagOff
  | repertoireFlagOff
  | flagOnAndOff
  | variableLookbehind
  | lookbehindTooLong
  /-- Patterns under the flag for templates repeat nothing. -/
  | repeatInTemplate (operator : String)
  deriving DecidableEq

/-- What is said of each cause. -/
def Cause.text : Cause → String
  | badEscape escape => "bad escape " ++ escape
  | escapeAtEnd => "bad escape (end of pattern)"
  | incompleteEscape escape => "incomplete escape " ++ escape
  | octalTooLarge escape => "octal escape value " ++ escape ++ " outside of range 0-0o377"
  | missingBrace => "missing \x7b"
  | unknownCharacterName name => "undefined character name " ++ Text.quoted name
  | unterminatedSet => "unterminated character set"
  | badRange first last => "bad character range " ++ first ++ "-" ++ last
  | nothingToRepeat => "nothing to repeat"
  | multipleRepeat => "multiple repeat"
  | repeatBoundsReversed => "min repeat greater than max repeat"
  | unbalancedParenthesis => "unbalanced parenthesis"
  | unterminatedGroup => "missing ), unterminated subpattern"
  | unterminatedComment => "missing ), unterminated comment"
  | unexpectedEnd => "unexpected end of pattern"
  | unknownExtension text => "unknown extension ?" ++ text
  | missingName what => "missing " ++ what
  | unterminatedName mark => "missing " ++ String.singleton mark ++ ", unterminated name"
  | badGroupName name => "bad character in group name " ++ Text.quoted name
  | unknownGroupName name => "unknown group name " ++ Text.quoted name
  | badGroupNumber => "bad group number"
  | invalidReference group => "invalid group reference " ++ shownInt group
  | openGroupReference => "cannot refer to an open group"
  | lookbehindReference => "cannot refer to group defined in the same lookbehind subpattern"
  | groupRedefined name group first =>
    "redefinition of group name " ++ Text.quoted name ++ " as group " ++ shownInt group
      ++ "; was group " ++ shownInt first
  | tooManyBranches => "conditional backref with more than two branches"
  | lateFlags => "global flags not at the start of the expression"
  | unknownFlag => "unknown flag"
  | missingFlagEnd => "missing -, : or )"
  | missingFlag => "missing flag"
  | missingColon => "missing :"
  | localeFlag => "bad inline flags: cannot use 'L' flag with a str pattern"
  | incompatibleFlags => "bad inline flags: flags 'a', 'u' and 'L' are incompatible"
  | globalFlagOn => "bad inline flags: cannot turn on global flag"
  | globalFlagOff => "bad inline flags: cannot turn off global flag"
  | repertoireFlagOff => "bad inline flags: cannot turn off flags 'a', 'u' and 'L'"
  | flagOnAndOff => "bad inline flags: flag turned on and off"
  | variableLookbehind => "look-behind requires fixed-width pattern"
  | lookbehindTooLong => "looks too much behind"
  | repeatInTemplate operator => "internal: unsupported template operator " ++ operator

/-- A fault of a pattern. -/
inductive Fault where
  /-- A fault, at a position where it has one. -/
  | invalid (cause : Cause) (position : Option Nat)
  /-- A number of repetitions that cannot be counted. -/
  | repeatTooLarge
  /-- A number of repetitions with more digits than a number may have. -/
  | countTooLong (digits : String)
  /-- Both repertoires of characters are asked for. -/
  | bothRepertoires
  deriving DecidableEq

/-- Why a pattern is not read. -/
inductive Failure where
  | fault (fault : Fault)
  /-- Its parts are nested too deeply for the stack. -/
  | tooDeep
  deriving DecidableEq

/-- Where a position stands: its line, from 1, and its column in that line. -/
def lineAndColumn (cs : List Char) (position : Nat) : Nat × Nat :=
  let before := cs.take position
  (before.count '\n' + 1, (before.reverse.takeWhile (· != '\n')).length + 1)

/-- The reason given for refusing a pattern. -/
def refusal (source : String) (cause : Cause) : Option Nat → String
  | none => cause.text
  | some position =>
    cause.text ++ " at position " ++ shownInt position ++
      (if source.toList.contains '\n' then
        match lineAndColumn source.toList position with
        | (line, column) =>
          " (line " ++ shownInt line ++ ", column " ++ shownInt column ++ ")"
      else "")

end PipeQuery.Pattern
