import PipeQuery.Cli.Options
import PipeQuery.Search.Basic

/-!
# Commands

What can be asked for on the command line: a search, a look at how a query is
read, and a benchmark.
-/

namespace PipeQuery.Cli

/-- What the options of the commands say. -/
inductive OptionKey where
  | help
  | config
  | source
  | page
  | pageSize
  | sort
  | descending
  | ascending
  | facets
  | noFacets
  | since
  | upTo
  | measure
  | runs
  deriving DecidableEq

/-- How help is asked for. -/
def helpForm : OptionForm OptionKey := ⟨.help, "--help", none, false⟩

/-- How the path of the configuration is given. -/
def configForm : OptionForm OptionKey := ⟨.config, "--config", some 'c', true⟩

/-- The options of a search. -/
def searchForms : List (OptionForm OptionKey) :=
  [helpForm, configForm, ⟨.source, "--source", some 's', true⟩, ⟨.page, "--page", none, true⟩,
    ⟨.pageSize, "--page-size", none, true⟩, ⟨.sort, "--sort", none, true⟩,
    ⟨.descending, "--desc", none, false⟩, ⟨.ascending, "--asc", none, false⟩,
    ⟨.facets, "--facets", none, false⟩, ⟨.noFacets, "--no-facets", none, false⟩,
    ⟨.since, "--since", none, true⟩, ⟨.upTo, "--until", none, true⟩,
    ⟨.measure, "--measure", none, false⟩]

/-- The options of a benchmark. -/
def benchmarkForms : List (OptionForm OptionKey) :=
  [helpForm, configForm, ⟨.runs, "--repeat", some 'r', true⟩]

/-- A search with its options. -/
structure SearchCommand where
  query : String
  config : String
  sources : List String
  page : Int
  pageSize : Option Int
  sortField : String
  descending : Option Bool
  facets : Bool
  since : Option Int
  upTo : Option Int
  measure : Bool

/-- What is asked for. -/
inductive Command where
  | search (c : SearchCommand)
  | parse (query : String)
  | benchmark (queries : List String) (config : String) (runs : Int)
  /-- How the program is used. -/
  | help
  /-- Nothing that can be done. -/
  | misuse

/-- The configuration file when none is named. -/
def standardConfig : String := "configs/default.yaml"

/-! ## Options -/

/-- The options that were given. -/
abbrev Given := List (GivenOption OptionKey)

namespace Given

/-- Whether an option is given. -/
def has (given : Given) (key : OptionKey) : Bool := given.any fun g => g.1 = key

/-- The values of an option, in order. -/
def values (given : Given) (key : OptionKey) : List String :=
  given.filterMap fun g => if g.1 = key then g.2 else none

/-- The last value of an option. -/
def last? (given : Given) (key : OptionKey) : Option String := (given.values key).getLast?

/-- The last one of two options that exclude each other: true for the first. -/
def choice? (given : Given) (yes no : OptionKey) : Option Bool :=
  given.foldl (fun found g =>
    if g.1 = yes then some true else if g.1 = no then some false else found) none

/-- The number given for an option, which must be one and not below a bound;
none if the option is not given. -/
def integer? (given : Given) (key : OptionKey) (least : Option Int) : Option (Option Int) :=
  match given.last? key with
  | none => some none
  | some text =>
    match readInteger text.toList with
    | .error _ => none
    | .ok n => if least.all (· ≤ n) then some (some n) else none

end Given

/-! ## Commands -/

/-- A search with its options and its query. -/
def readSearch? (given : Given) (arguments : List String) : Option SearchCommand := do
  let page ← given.integer? .page (some 0)
  let pageSize ← given.integer? .pageSize (some 1)
  let since ← given.integer? .since none
  let upTo ← given.integer? .upTo none
  match arguments with
  | [query] =>
    return {
      query := query
      config := (given.last? .config).getD standardConfig
      sources := given.values .source
      page := page.getD 0
      pageSize := pageSize
      sortField := (given.last? .sort).getD scoreName
      descending := given.choice? .descending .ascending
      facets := (given.choice? .facets .noFacets).getD true
      since := since
      upTo := upTo
      measure := given.has .measure }
  | _ => none

/-- The number of runs of a benchmark when none is given. -/
def standardRuns : Int := 3

/-- A benchmark with its options and its queries. -/
def readBenchmark? (given : Given) (arguments : List String) : Option Command := do
  let runs ← given.integer? .runs (some 1)
  if arguments.isEmpty then none
  else some (.benchmark arguments ((given.last? .config).getD standardConfig)
    (runs.getD standardRuns))

/-- The query whose parts are shown. -/
def readParse? (arguments : List String) : Option Command :=
  match arguments with
  | [query] => some (.parse query)
  | _ => none

/-- A command with its words; asking for help comes before all else. -/
def readWith (forms : List (OptionForm OptionKey)) (words : List String)
    (make : Given → List String → Option Command) : Command :=
  match splitWords? forms words with
  | none => .misuse
  | some (given, arguments) =>
    if Given.has given .help then .help else (make given arguments).getD .misuse

/-- The command of a name with the words behind it. -/
def readNamed (name : String) (words : List String) : Command :=
  match name with
  | "search" => readWith searchForms words fun given args => (readSearch? given args).map .search
  | "parse" => readWith [helpForm] words fun _ args => readParse? args
  | "benchmark" => readWith benchmarkForms words readBenchmark?
  | _ => .misuse

/-- Reads a command line; `helpAsked` says whether help was asked for before
the name of a command. -/
def readFrom (helpAsked : Bool) : List String → Command
  | [] => if helpAsked then .help else .misuse
  | word :: rest =>
    match Word.read [helpForm] word with
    | .options _ => readFrom true rest
    | .argument => if helpAsked then .help else readNamed word rest
    | .argumentsOnly =>
      if helpAsked then .help
      else match rest with
        | [] => .misuse
        | name :: words => readNamed name words
    | _ => .misuse

/-- The command that some words give. -/
def Command.read (words : List String) : Command := readFrom false words

end PipeQuery.Cli
