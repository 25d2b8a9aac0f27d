import PipeQuery.Pattern.Fault
import PipeQuery.Time.Timestamp
import PipeQuery.Text.Find
import PipeQuery.Text.Utf8

/-!
# Faults

Everything that can go wrong, by cause, and what is said of it
(`Fault.message`).
-/

namespace PipeQuery

/-- Why the arguments of a stage are refused. -/
inductive ArgumentFault where
  | filterArguments
  | filterOperator (operator : String)
  | transformOperation
  | unknownTransform (operation : String)
  /-- The arguments of a transform do not have the form of its operation. -/
  | transformForm (operation form : String)
  | aggregation (expression : String)
  | span (text : String)
  | zeroSpan
  | timezone (name : String)
  | exportTarget
  | sampleSize (text : String)
  deriving DecidableEq

namespace ArgumentFault

/-- The stage that refuses. -/
def stage : ArgumentFault → String
  | filterArguments | filterOperator _ => "filter"
  | transformOperation | unknownTransform _ | transformForm .. => "transform"
  | aggregation _ => "stats"
  | span _ | zeroSpan | timezone _ => "timechart"
  | exportTarget | sampleSize _ => "export"

/-- The parameter that is refused. -/
def parameter? : ArgumentFault → Option String
  | filterArguments | transformOperation => none
  | filterOperator _ => some "operator"
  | unknownTransform operation | transformForm operation _ => some operation
  | aggregation expression => some expression
  | span _ | zeroSpan => some "span"
  | timezone _ => some "timezone"
  | exportTarget => some "table"
  | sampleSize _ => some "sample"

/-- What is said of the argument. -/
def text : ArgumentFault → String
  | filterArguments =>
    "Filter requires field, operator, and value: filter <field> <operator> <value>"
  | filterOperator operator => "Unsupported filter operator: " ++ operator
  | transformOperation =>
    "Transform requires an operation: rename, extract, replace, merge, eval, or remove"
  | unknownTransform operation => "Unknown transform operation: " ++ operation
  | transformForm operation form => operation ++ " syntax: " ++ form
  | aggregation expression => "Unsupported aggregation: " ++ expression
  | span t => "Invalid span " ++ Text.quoted t ++ "; expected <integer><unit>"
  | zeroSpan => "Span must be positive"
  | timezone name => "Unknown timezone: " ++ Text.quoted name
  | exportTarget => "Export command requires 'table' parameter"
  | sampleSize t => "Invalid sample size: " ++ t

end ArgumentFault

/-- Why values from outside are refused without a word. -/
inductive ShapeFault where
  /-- A value of a type that cannot be used there. -/
  | wrongType
  /-- A value without the parts that are asked for. -/
  | missingPart
  /-- A key that is not there. -/
  | missingKey
  /-- A text that is not JSON. -/
  | malformedJson
  /-- A text that is not YAML. -/
  | malformedYaml
  deriving DecidableEq

/-- What can go wrong. -/
inductive Fault where
  | argument (fault : ArgumentFault)
  | unknownCommand (command : String)
  | invalidPattern (stage source : String) (cause : Pattern.Cause) (position : Option Nat)
  /-- More repetitions in a pattern than can be counted. -/
  | repeatTooLarge
  /-- A pattern asks for both repertoires of characters. -/
  | bothRepertoires
  /-- A pattern is nested too deeply for the stack. -/
  | tooDeep
  /-- A place beyond the end of a list, as behind a keyword that stands last. -/
  | beyondEnd
  /-- A stage failed while running. -/
  | execution (stage reason : String)
  | time (fault : TimeFault)
  /-- A number that is no whole number. -/
  | integer (text : String) (fault : IntegerFault)
  /-- A part of a list whose end cannot be counted to. -/
  | windowEnd
  /-- A part of a list with negative bounds. -/
  | windowBounds
  /-- A source could not be read. -/
  | retrieval (source reason : String)
  /-- An adapter fails with a reason of its own. -/
  | adapter (reason : String)
  /-- An adapter reports a fault of the library. -/
  | reported (reason : String)
  | readerClosed (source : String)
  /-- A record number beyond the records of a source. -/
  | unknownRecord
  | batchSize (n : Int)
  | mergeOrder (name : String)
  | repeatCount (n : Int)
  /-- A stream has no further record. -/
  | exhausted
  | configMissing (path : String)
  | configBatchSize (value : String)
  | configTimezone (value : String)
  | dataMissing (path : String)
  /-- A directory where a file is asked for. -/
  | isDirectory (path : String)
  | noData (path : String)
  | logLevel (name : String)
  /-- A sequence that is no list of keys and values. -/
  | pairLength (index length : Nat)
  | shape (fault : ShapeFault)
  /-- Bytes that are not UTF-8. -/
  | malformedText (fault : Text.Utf8.Fault)
  /-- A table with the same column twice. -/
  | duplicateColumn (name : String)
  /-- A fault inside a measured part. -/
  | measured (text : String)
  deriving DecidableEq

/-- The suffixes of files that hold records. -/
def recordSuffixes : List String := [".csv", ".json", ".jsonl"]

/-- What is said of a text that is no whole number. -/
def IntegerFault.message (text : String) : IntegerFault → String
  | malformed => "invalid literal for int() with base 10: " ++ Text.quoted text
  | tooLong digits =>
    "Exceeds the limit (" ++ shownInt maxIntegerDigits
      ++ " digits) for integer string conversion: value has " ++ shownInt digits
      ++ " digits; use sys.set_int_max_str_digits() to increase the limit"

namespace Fault

/-- A message behind the stage that it is about. -/
def inStage (stage text : String) : String :=
  if stage.isEmpty then text else "[" ++ stage ++ "] " ++ text

/-- What is said of a fault. -/
def message : Fault → String
  | argument fault => inStage fault.stage fault.text
  | unknownCommand command => inStage command ("Unknown pipe command: " ++ command)
  | invalidPattern stage source cause position =>
    inStage stage
      ("Invalid regex pattern " ++ Text.quoted source ++ ": "
        ++ Pattern.refusal source cause position)
  | repeatTooLarge => "the repetition number is too large"
  | bothRepertoires => "ASCII and UNICODE flags are incompatible"
  | tooDeep => "maximum recursion depth exceeded"
  | beyondEnd => "list index out of range"
  | execution stage reason => "Pipe command error in '" ++ stage ++ "': " ++ reason
  | time fault => fault.message
  | integer text fault => fault.message text
  | windowEnd =>
    "Stop argument for islice() must be None or an integer: 0 <= x <= sys.maxsize."
  | windowBounds =>
    "Indices for islice() must be None or an integer: 0 <= x <= sys.maxsize."
  | retrieval source reason => "Retrieval failed for source '" ++ source ++ "': " ++ reason
  | adapter reason => reason
  | reported reason => reason
  | readerClosed source => "Reader for " ++ source ++ " is closed"
  | unknownRecord => "tuple index out of range"
  | batchSize n => "batch_size must be positive, got " ++ shownInt n
  | mergeOrder name => "Unsupported merge order: " ++ name
  | repeatCount n => "repeat must be positive, got " ++ shownInt n
  | exhausted => ""
  | configMissing path => "Config file not found: " ++ path
  | configBatchSize value => "stream.batch_size must be positive, got " ++ value
  | configTimezone value => "pipe.timezone is not a known zone: " ++ value
  | dataMissing path => "Dataset path not found: " ++ path
  | isDirectory path => "[Errno 21] Is a directory: " ++ Text.quoted path
  | noData path =>
    "No supported log files were found under " ++ path ++ ". Supported suffixes: ["
      ++ Text.join ", " (recordSuffixes.map Text.quoted) ++ "]"
  | logLevel name => "Unknown log level: " ++ name
  | pairLength index length =>
    "dictionary update sequence element #" ++ shownInt index ++ " has length " ++ shownInt length
      ++ "; 2 is required"
  | shape _ => ""
  | malformedText fault => fault.message
  | duplicateColumn name => "cannot insert " ++ name ++ ", already exists"
  | measured text => text

/-- What a stage reports whose pattern is not read.  It refuses the pattern only
for some of its faults. -/
def ofPattern (stage source : String) : Pattern.Failure → Fault
  | .fault (.invalid cause position) => invalidPattern stage source cause position
  | .fault .repeatTooLarge => repeatTooLarge
  | .fault (.countTooLong digits) => integer digits (.tooLong digits.length)
  | .fault .bothRepertoires => bothRepertoires
  | .tooDeep => tooDeep

/-- The fault is one of the library's own, and passes through as it is. -/
def isOwn : Fault → Bool
  | argument _ | unknownCommand _ | invalidPattern .. | execution .. | retrieval .. | reported _ =>
    true
  | _ => false

end Fault

end PipeQuery
