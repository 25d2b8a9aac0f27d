import PipeQuery.FileTree
import PipeQuery.Search.Basic
import PipeQuery.Platform.Basic
import PipeQuery.Log

/-!
# Configuration

A configuration is a YAML mapping with sections.  Its values are kept as they
are written; only the batch size and the time zone are looked at when it is
read (`Config.read`).  `Config.settings` makes settings of it.
-/

namespace PipeQuery

/-- A section: what it holds by key, in a fixed order. -/
abbrev ConfigSection := OrderedMap String Datum

/-- The values of a configuration. -/
structure Config where
  dataPath : Datum
  sources : List Datum
  logLevel : Datum
  stream : ConfigSection
  pipe : ConfigSection
  search : ConfigSection

namespace Config

/-- How many records are fetched at once. -/
def batchSizeKey : String := "batch_size"

/-- The order in which sources are merged. -/
def mergeOrderKey : String := "merge_order"

/-- The greatest number of records that stages take from one source. -/
def resultCapKey : String := "result_cap"

/-- The zone of the labels of charts over time. -/
def timezoneKey : String := "timezone"

/-- The size of pages. -/
def pageSizeKey : String := "page_size"

/-- The greatest number of records of one source that are sorted by a field. -/
def sortCapKey : String := "sort_cap"

/-- The fields whose values are counted. -/
def facetFieldsKey : String := "facet_fields"

/-! ## Defaults -/

/-- Where the data is. -/
def standardDataPath : String := "data/samples"

/-- The least level that is logged. -/
def standardLogLevel : String := "INFO"

/-- The settings of streams. -/
def standardStream : ConfigSection :=
  .ofList [(batchSizeKey, .integer SearchSettings.standard.batchSize),
    (mergeOrderKey, .text SearchSettings.standard.mergeOrder)]

/-- The settings of stages. -/
def standardPipe : ConfigSection :=
  .ofList [(resultCapKey, .integer (SearchSettings.standard.resultCap.getD 0)),
    (timezoneKey, .text SearchSettings.standard.timezone)]

/-- The settings of pages. -/
def standardSearch : ConfigSection :=
  .ofList [(pageSizeKey, .integer SearchSettings.standard.pageSize),
    (sortCapKey, .integer SearchSettings.standard.sortCap), (facetFieldsKey, .list [])]

/-! ## Reading -/

/-- The items of a value: of a list, the keys of a mapping, the characters of
a text; nothing stands for no items. -/
def itemsOf (value : Datum) : Except Fault (List Datum) :=
  if value.isVoid then .ok []
  else match value with
    | .list items => .ok items
    | .mapping entries => .ok (entries.map Prod.fst)
    | .text s => .ok (s.toList.map fun c => .text (String.singleton c))
    | _ => .error (.shape .wrongType)

/-- Sets the keys of a section, which have to be known. -/
def fillSection : ConfigSection → List (Datum × Datum) → Except Fault ConfigSection
  | found, [] => .ok found
  | found, (key, value) :: rest =>
    match key.text? with
    | some name =>
      if found.contains name then fillSection (found.insert name value) rest
      else .error (.shape .wrongType)
    | none => .error (.shape .wrongType)

/-- A section of a configuration. -/
def readSection (standard : ConfigSection) (key : String) (entries : List (Datum × Datum)) :
    Except Fault ConfigSection :=
  match Datum.get? key entries with
  | none => .ok standard
  | some (.mapping values) => fillSection standard values
  | some _ => .error (.shape .wrongType)

/-- The value as a number, of which a flag is one. -/
def numeric? : Datum → Option Number
  | .flag b => some (.integer (if b then 1 else 0))
  | .number n => some n
  | _ => none

/-- A batch size is a number, and not zero or less. -/
def checkBatchSize (value : Datum) : Except Fault Unit :=
  match numeric? value with
  | none => .error (.shape .wrongType)
  | some n => if n.le (.integer 0) then .error (.configBatchSize value.shown) else .ok ()

/-- A time zone is the name of a zone. -/
def checkTimezone [Platform] (value : Datum) : Except Fault Unit :=
  match value with
  | .text name =>
    if (Platform.zone? name).isSome then .ok () else .error (.configTimezone value.quoted)
  | _ => .error (.shape .wrongType)

/-- The entries of a configuration; without content there are none. -/
def entriesOf (value : Datum) : Except Fault (List (Datum × Datum)) :=
  if value.isVoid then .ok []
  else match value with
    | .mapping entries => .ok entries
    | _ => .error (.shape .missingPart)

/-- The configuration in a value. -/
def ofDatum [Platform] (value : Datum) : Except Fault Config := do
  let entries ← entriesOf value
  let config : Config :=
    { dataPath := (Datum.get? "data_path" entries).getD (.text standardDataPath)
      sources := ← itemsOf ((Datum.get? "sources" entries).getD .null)
      logLevel := (Datum.get? "log_level" entries).getD (.text standardLogLevel)
      stream := ← readSection standardStream "stream" entries
      pipe := ← readSection standardPipe "pipe" entries
      search := ← readSection standardSearch "search" entries }
  checkBatchSize ((config.stream.get? batchSizeKey).getD .null)
  checkTimezone ((config.pipe.get? timezoneKey).getD .null)
  return config

/-- Reads the configuration in a file. -/
def read [Platform] (tree : FileTree) (path : FilePath) : Except Fault Config := do
  match tree.bytes? path with
  | some bytes => ofDatum (← Platform.readYaml (← (FileText.ofBytes bytes).whole))
  | none =>
    if tree.contains path then throw (.isDirectory (tree.shownPath path))
    else throw (.configMissing (tree.shownPath path))

/-! ## Settings -/

/-- A whole number, of which a flag is one. -/
def integerOf (value : Option Datum) : Except Fault Int :=
  match value.bind numeric? with
  | some (.integer n) => .ok n
  | _ => .error (.shape .wrongType)

/-- A whole number or nothing. -/
def integerOrNull (value : Option Datum) : Except Fault (Option Int) :=
  match value with
  | some .null => .ok none
  | _ => (integerOf value).map some

/-- The settings of searches. -/
def settings (config : Config) : Except Fault SearchSettings := do
  return {
    sources := config.sources.map Datum.shown
    batchSize := ← integerOf (config.stream.get? batchSizeKey)
    mergeOrder := ((config.stream.get? mergeOrderKey).map Datum.shown).getD ""
    resultCap := ← integerOrNull (config.pipe.get? resultCapKey)
    timezone := ((config.pipe.get? timezoneKey).map Datum.shown).getD ""
    pageSize := ← integerOf (config.search.get? pageSizeKey)
    sortCap := ← integerOf (config.search.get? sortCapKey)
    facetFields := (← itemsOf ((config.search.get? facetFieldsKey).getD .null)).map Datum.shown }

/-- The rank of the least level that is logged. -/
def logRank (config : Config) : Except Fault Int :=
  match config.logLevel with
  | .flag b => .ok (if b then 1 else 0)
  | .number (.integer n) => .ok n
  | .text name =>
    match levelRank? name with
    | some rank => .ok rank
    | none => .error (.logLevel name)
  | _ => .error (.shape .missingPart)

/-- The path of the data. -/
def path (config : Config) : Except Fault FilePath :=
  match config.dataPath with
  | .text s => .ok (FileTree.pathOf s)
  | _ => .error (.shape .wrongType)

end Config

end PipeQuery
