import PipeQuery.Text.Case

/-!
# Matching without regard to case

Two characters match when their lower-case forms are equal, or are two forms
of one letter that share an upper case, such as `s` and the long `ſ`.
-/

namespace PipeQuery.Pattern

/-- Lower-case letters that share their upper case with other ones. -/
def sharedUpperCase : List (List Nat) := [
  [0x69, 0x131], [0x73, 0x17f], [0xb5, 0x3bc], [0x345, 0x3b9, 0x1fbe],
  [0x390, 0x1fd3], [0x3b0, 0x1fe3], [0x3b2, 0x3d0], [0x3b5, 0x3f5],
  [0x3b8, 0x3d1], [0x3ba, 0x3f0], [0x3c0, 0x3d6], [0x3c1, 0x3f1],
  [0x3c2, 0x3c3], [0x3c6, 0x3d5], [0x432, 0x1c80], [0x434, 0x1c81],
  [0x43e, 0x1c82], [0x441, 0x1c83], [0x442, 0x1c84, 0x1c85], [0x44a, 0x1c86],
  [0x463, 0x1c87], [0x1c88, 0xa64b], [0x1e61, 0x1e9b], [0xfb05, 0xfb06]]

/-- The other lower-case letters with the upper case of `code`. -/
def variants (code : Nat) : List Nat :=
  (sharedUpperCase.filter (·.contains code)).flatten.filter (· != code)

/-- A letter with another form in upper or lower case. -/
def hasCase (code : Nat) : Bool :=
  Text.lowerCode code != code
    || (Text.upperSequences.any fun e => e.1 == code)
    || Text.mapByRuns Text.upperRuns code != code

/-- The run maps `code`. -/
def inRun (r : Text.CaseRun) (code : Nat) : Bool :=
  r.first ≤ code && code ≤ r.last && (code - r.first) % r.step == 0

/-- The run maps some code point from `first` to `last`. -/
def runMeets (r : Text.CaseRun) (first last : Nat) : Bool :=
  let low := max r.first first
  let start := low + (r.step - (low - r.first) % r.step) % r.step
  start ≤ r.last && start ≤ last

/-- Some code point from `first` to `last` has another case; beyond the first
plane every range counts. -/
def rangeHasCase (first last : Nat) : Bool :=
  0xffff < last
    || (Text.lowerRuns.any fun r => runMeets r first last)
    || (Text.upperRuns.any fun r => runMeets r first last)
    || (Text.upperSequences.any fun e => first ≤ e.1 && e.1 ≤ last)

/-- Some code point from `first` to `last` has the lower case `code`. -/
def rangeLowersTo (first last code : Nat) : Bool :=
  (first ≤ code && code ≤ last && Text.lowerCode code == code)
    || Text.lowerRuns.any fun r =>
      let source := ((code : Int) - r.shift).toNat
      inRun r source && first ≤ source && source ≤ last

/-- Some code point from `first` to `last` matches the lower-case `code`. -/
def rangeMatchesFolded (first last code : Nat) : Bool :=
  rangeLowersTo first last code || (variants code).any (rangeLowersTo first last)

end PipeQuery.Pattern
