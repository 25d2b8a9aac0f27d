import PipeQuery.Text.Find

/-!
# Options and arguments

How a command line is split into options and arguments.  A long option may
have its value behind an equals sign; short options may stand together, and
what stands behind one that takes a value is its value.  Behind `--` all are
arguments.
-/

namespace PipeQuery.Cli

/-- An option of a command. -/
structure OptionForm (κ : Type) where
  key : κ
  /-- Its long name, with its two hyphens. -/
  long : String
  /-- The letter that stands for it behind one hyphen. -/
  short : Option Char
  takesValue : Bool

/-- An option as given, with its value if it takes one. -/
abbrev GivenOption (κ : Type) := κ × Option String

/-- What one word of a command line comes to. -/
inductive Word (κ : Type) where
  | argument
  /-- From here on all are arguments. -/
  | argumentsOnly
  | options (given : List (GivenOption κ))
  /-- Options, the last of which takes the next word as its value. -/
  | awaiting (given : List (GivenOption κ)) (key : κ)
  | misused

namespace Word

variable {κ : Type}

/-- A word with another option before it. -/
def before (given : GivenOption κ) : Word κ → Word κ
  | options rest => options (given :: rest)
  | awaiting rest key => awaiting (given :: rest) key
  | word => word

/-- Options by their letters. -/
def ofLetters (forms : List (OptionForm κ)) : List Char → Word κ
  | [] => options []
  | c :: rest =>
    match forms.find? fun f => f.short == some c with
    | none => misused
    | some f =>
      if !f.takesValue then before (f.key, none) (ofLetters forms rest)
      else if rest.isEmpty then awaiting [] f.key
      else options [(f.key, some (String.ofList rest))]

/-- A long option by its name, with the value behind the equals sign. -/
def ofLong (f : OptionForm κ) (value : Option String) : Word κ :=
  match f.takesValue, value with
  | true, some v => options [(f.key, some v)]
  | true, none => awaiting [] f.key
  | false, none => options [(f.key, none)]
  | false, some _ => misused

/-- Reads a word. -/
def read (forms : List (OptionForm κ)) (text : String) : Word κ :=
  match text.toList with
  | ['-', '-'] => argumentsOnly
  | '-' :: c :: rest =>
    let (name, value) := match Text.cutAt? '=' text.toList with
      | some (name, value) => (String.ofList name, some (String.ofList value))
      | none => (text, none)
    match forms.find? fun f => f.long == name with
    | some f => ofLong f value
    | none => if c == '-' then misused else ofLetters forms (c :: rest)
  | _ => argument

end Word

/-- The options and the arguments of a command line, if its options are used
as they can be. -/
def splitWords? {κ : Type} (forms : List (OptionForm κ)) :
    List String → Option (List (GivenOption κ) × List String)
  | [] => some ([], [])
  | text :: rest =>
    match Word.read forms text with
    | .argument => (splitWords? forms rest).map fun r => (r.1, text :: r.2)
    | .argumentsOnly => some ([], rest)
    | .options given => (splitWords? forms rest).map fun r => (given ++ r.1, r.2)
    | .awaiting given key =>
      match rest with
      | [] => none
      | value :: rest =>
        (splitWords? forms rest).map fun r => (given ++ (key, some value) :: r.1, r.2)
    | .misused => none

end PipeQuery.Cli
