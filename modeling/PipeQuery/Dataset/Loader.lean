import PipeQuery.Dataset.Item
import PipeQuery.Datum.Csv
import PipeQuery.Datum.Json
import PipeQuery.FileTree
import PipeQuery.Text.Case

/-!
# Datasets

The files below a path with the records they hold; the name of a file without
its suffix is the source of its records.
-/

namespace PipeQuery

/-- How a file holds records. -/
inductive RecordFormat where
  /-- A JSON value: an item, or a list of items. -/
  | json
  /-- A JSON value on each line. -/
  | jsonLines
  | csv
  deriving DecidableEq

namespace RecordFormat

/-- The format of files with a suffix, in any case. -/
def ofSuffix? (suffix : String) : Option RecordFormat :=
  match Text.lower suffix with
  | ".json" => some json
  | ".jsonl" => some jsonLines
  | ".csv" => some csv
  | _ => none

/-- Records of items, one after the other. -/
def recordsOf (source : String) (items : List (Except Fault Datum)) :
    Except Fault (List Record) :=
  items.mapM fun item => do Record.ofDatum (← item) source

/-- The records in a text.  A text that breaks off is refused, but for a fault
in the lines before, which is found first. -/
def read (format : RecordFormat) (source : String) (text : FileText) :
    Except Fault (List Record) :=
  match format with
  | json => do
    match ← Json.read (← text.whole) with
    | .list items => recordsOf source (items.map .ok)
    | item => recordsOf source [.ok item]
  | jsonLines =>
    let lines := (Text.lines text.chars).filter fun line => !line.all Text.isBlank
    recordsOf source (lines.map Json.read ++ text.ending)
  | csv => recordsOf source ((Csv.items text.fault?.isSome text.chars).map .ok ++ text.ending)

end RecordFormat

/-- Records by source. -/
abbrev Dataset := OrderedMap String (List Record)

namespace Dataset

/-- Adds the records of a file, if it has a format. -/
def addFile (dataset : Dataset) (name : String) (bytes : List UInt8) : Except Fault Dataset :=
  let (source, suffix) := splitSuffix name
  match RecordFormat.ofSuffix? suffix with
  | none => .ok dataset
  | some format => do
    let records ← format.read source (.ofBytes bytes)
    return dataset.update source [] (· ++ records)

/-- Adds files one after the other. -/
def addFiles (dataset : Dataset) : List (FilePath × List UInt8) → Except Fault Dataset
  | [] => .ok dataset
  | (path, bytes) :: rest => do
    let dataset ← dataset.addFile (path.getLast?.getD "") bytes
    dataset.addFiles rest

/-- Loads a file, or all files below a directory. -/
def load (tree : FileTree) (path : FilePath) : Except Fault Dataset := do
  if !tree.contains path then throw (.dataMissing (tree.shownPath path))
  let dataset ← addFiles .empty (tree.filesUnder path)
  if dataset.isEmpty then throw (.noData (tree.shownPath path))
  return dataset

end Dataset

end PipeQuery
