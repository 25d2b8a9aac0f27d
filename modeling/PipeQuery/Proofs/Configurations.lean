import PipeQuery.Cli.Session
import PipeQuery.Proofs.Building
import PipeQuery.Proofs.Interleavings
import PipeQuery.Proofs.Pipelines
import PipeQuery.Proofs.Running

/-!
# Accepted configurations

When a configuration is read, only its batch size and its time zone are looked at.  The level of the
log is looked at when a service is opened, the merge order when a query with stages is searched for.

* `Config.exists_settings`: the settings of an accepted configuration, and what is known of them.
* `Stage.buildAll_eq_error_iff_of_zones`: known time zones have no part in whether stages are built.
* `SearchService.exists_gathered`: sources answer, however many hits they are asked for.
* `SearchService.stagesDecide`: what a search with stages can fail by.
* `Cli.openService_of_config`: what can go wrong with an accepted configuration is the level of the
  log, when the service is opened, and the merge order, when stages are searched with.
-/

namespace PipeQuery

/-! ## What is accepted -/

/-- A step of a computation that answered. -/
theorem Except.exists_of_bind_eq_ok {ε α β : Type} {x : Except ε α} {f : α → Except ε β} {b : β}
    (h : (x >>= f) = .ok b) : ∃ a, x = .ok a ∧ f a = .ok b := by
  cases x with
  | ok a => exact ⟨a, rfl, h⟩
  | error fault => cases h

theorem Except.map_eq_error_iff {ε α β : Type} {x : Except ε α} {f : α → β} {fault : ε} :
    x.map f = .error fault ↔ x = .error fault := by
  cases x <;> simp [Except.map]

theorem Except.exists_of_isOk {ε α : Type} {x : Except ε α} (h : x.isOk = true) :
    ∃ a, x = .ok a := by
  cases x with
  | ok a => exact ⟨a, rfl⟩
  | error fault => cases h

/-- The value is a list. -/
def Datum.isList : Datum → Bool
  | list _ => true
  | _ => false

theorem Number.le_integer_iff {m n : Int} : (integer m).le (integer n) = true ↔ m ≤ n := by
  simp [le, order?, compare_lt_iff_lt, Int.le_iff_lt_or_eq]

namespace Config

/-- The values of a configuration have their declared types: texts for the path of the data, the
level of the log and the merge order, whole numbers for all sizes, and a list for the fields. -/
structure HasTypes (config : Config) (data level order : String) : Prop where
  data : config.dataPath.text? = some data
  level : config.logLevel.text? = some level
  order : (config.stream.get? mergeOrderKey).bind Datum.text? = some order
  batchSize : (integerOf (config.stream.get? batchSizeKey)).isOk = true
  resultCap : (integerOf (config.pipe.get? resultCapKey)).isOk = true
  pageSize : (integerOf (config.search.get? pageSizeKey)).isOk = true
  sortCap : (integerOf (config.search.get? sortCapKey)).isOk = true
  facetFields : (config.search.get? facetFieldsKey).any Datum.isList = true

instance (config : Config) (data level order : String) :
    Decidable (config.HasTypes data level order) :=
  decidable_of_iff
    (config.dataPath.text? = some data ∧ config.logLevel.text? = some level ∧
      (config.stream.get? mergeOrderKey).bind Datum.text? = some order ∧
      (integerOf (config.stream.get? batchSizeKey)).isOk = true ∧
      (integerOf (config.pipe.get? resultCapKey)).isOk = true ∧
      (integerOf (config.search.get? pageSizeKey)).isOk = true ∧
      (integerOf (config.search.get? sortCapKey)).isOk = true ∧
      (config.search.get? facetFieldsKey).any Datum.isList = true)
    ⟨fun ⟨hdata, hlevel, horder, hbatch, hcap, hpage, hsort, hfields⟩ =>
      ⟨hdata, hlevel, horder, hbatch, hcap, hpage, hsort, hfields⟩,
     fun h => ⟨h.data, h.level, h.order, h.batchSize, h.resultCap, h.pageSize, h.sortCap,
      h.facetFields⟩⟩

/-- What is looked at when a configuration is read. -/
theorem checks_of_read [Platform] {tree : FileTree} {path : FilePath} {config : Config}
    (h : read tree path = .ok config) :
    checkBatchSize ((config.stream.get? batchSizeKey).getD .null) = .ok () ∧
      checkTimezone ((config.pipe.get? timezoneKey).getD .null) = .ok () := by
  unfold read at h
  split at h
  · obtain ⟨text, -, h⟩ := Except.exists_of_bind_eq_ok h
    obtain ⟨value, -, h⟩ := Except.exists_of_bind_eq_ok h
    unfold ofDatum at h
    obtain ⟨entries, -, h⟩ := Except.exists_of_bind_eq_ok h
    obtain ⟨sources, -, h⟩ := Except.exists_of_bind_eq_ok h
    obtain ⟨stream, -, h⟩ := Except.exists_of_bind_eq_ok h
    obtain ⟨pipe, -, h⟩ := Except.exists_of_bind_eq_ok h
    obtain ⟨search, -, h⟩ := Except.exists_of_bind_eq_ok h
    obtain ⟨_, hbatch, h⟩ := Except.exists_of_bind_eq_ok h
    obtain ⟨_, hzone, h⟩ := Except.exists_of_bind_eq_ok h
    cases h
    exact ⟨hbatch, hzone⟩
  · split at h <;> cases h

theorem pos_of_checkBatchSize {value : Option Datum} {n : Int} (hn : integerOf value = .ok n)
    (hcheck : checkBatchSize (value.getD .null) = .ok ()) : 1 ≤ n := by
  unfold integerOf at hn
  cases value with
  | none => cases hn
  | some d =>
      rw [Option.bind_some] at hn
      rw [Option.getD_some, checkBatchSize] at hcheck
      cases hnumeric : numeric? d with
      | none => rw [hnumeric] at hn; cases hn
      | some number =>
          rw [hnumeric] at hn hcheck
          cases number with
          | binary x => cases hn
          | integer k =>
              cases hn
              dsimp only at hcheck
              split at hcheck
              · cases hcheck
              · next hle =>
                rw [Number.le_integer_iff] at hle
                omega

theorem zone_of_checkTimezone [Platform] {value : Option Datum}
    (h : checkTimezone (value.getD .null) = .ok ()) :
    (Platform.zone? ((value.map Datum.shown).getD "")).isSome = true := by
  unfold checkTimezone at h
  split at h
  · next name hname =>
    split at h
    · next hzone =>
      cases value with
      | none => cases hname
      | some d =>
          cases hname
          exact hzone
    · cases h
  · cases h

/-- A whole number is not null. -/
theorem integerOrNull_of_integerOf {value : Option Datum} {n : Int} (h : integerOf value = .ok n) :
    integerOrNull value = .ok (some n) := by
  unfold integerOrNull
  split
  · cases h
  · rw [h]
    rfl

theorem itemsOf_of_isList {value : Option Datum} (h : value.any Datum.isList = true) :
    ∃ items, itemsOf (value.getD .null) = .ok items := by
  cases value with
  | none => exact ⟨[], rfl⟩
  | some d =>
      cases d with
      | list items => cases items <;> exact ⟨_, rfl⟩
      | _ => cases h

/-- **The settings of an accepted configuration**: batches are not empty, and the zone is known. -/
theorem exists_settings [Platform] {tree : FileTree} {path : FilePath} {config : Config}
    {data level order : String} (hread : read tree path = .ok config)
    (h : config.HasTypes data level order) :
    ∃ settings cap, config.settings = .ok settings ∧ 1 ≤ settings.batchSize ∧
      settings.mergeOrder = order ∧ settings.resultCap = some cap ∧
      (Platform.zone? settings.timezone).isSome = true := by
  obtain ⟨hbatch, hzone⟩ := checks_of_read hread
  obtain ⟨size, hsize⟩ := Except.exists_of_isOk h.batchSize
  obtain ⟨cap, hcap⟩ := Except.exists_of_isOk h.resultCap
  obtain ⟨pageSize, hpage⟩ := Except.exists_of_isOk h.pageSize
  obtain ⟨sortCap, hsort⟩ := Except.exists_of_isOk h.sortCap
  obtain ⟨fields, hfields⟩ := itemsOf_of_isList h.facetFields
  have horder : ((config.stream.get? mergeOrderKey).map Datum.shown).getD "" = order := by
    obtain ⟨d, hd, htext⟩ := Option.bind_eq_some_iff.1 h.order
    rw [hd, Datum.text?_eq_some_iff.1 htext]
    rfl
  have hsettings : config.settings = .ok
      { sources := config.sources.map Datum.shown
        batchSize := size
        mergeOrder := ((config.stream.get? mergeOrderKey).map Datum.shown).getD ""
        resultCap := some cap
        timezone := ((config.pipe.get? timezoneKey).map Datum.shown).getD ""
        pageSize := pageSize
        sortCap := sortCap
        facetFields := fields.map Datum.shown } := by
    unfold settings
    rw [hsize, integerOrNull_of_integerOf hcap, hpage, hsort, hfields]
    rfl
  exact ⟨_, cap, hsettings, pos_of_checkBatchSize hsize hbatch, horder, rfl,
    zone_of_checkTimezone hzone⟩

end Config

/-! ## Names of levels and orders -/

/-- The names that levels of the log have, in capital letters. -/
def levelNames : List String := levelRanks.map Prod.fst

theorem levelRank?_eq_none_iff {name : String} :
    levelRank? name = none ↔ Text.upper name ∉ levelNames := by
  rw [levelRank?, List.lookup_eq_none_iff, levelNames, List.mem_map]
  constructor
  · rintro h ⟨e, he, hname⟩
    simpa [hname] using h e he
  · exact fun h e he => bne_iff_ne.2 fun hname => h ⟨e, he, hname.symm⟩

theorem levelRank?_of_mem {name : String} (h : Text.upper name ∈ levelNames) :
    ∃ rank, levelRank? name = some rank :=
  Option.ne_none_iff_exists'.1 fun hnone => levelRank?_eq_none_iff.1 hnone h

namespace MergeOrder

/-- The names that merge orders have. -/
def names : List String := ["sequential", "score", "timestamp_asc", "timestamp_desc"]

theorem exists_named_iff {name : String} : (∃ m, named name = .ok m) ↔ name ∈ names := by
  unfold named names
  split <;> simp_all

theorem named_of_notMem {name : String} (h : name ∉ names) :
    named name = .error (.mergeOrder name) := by
  unfold named
  unfold names at h
  split <;> simp_all

end MergeOrder

/-! ## Building in a known zone -/

namespace TimeChartStage

theorem build_eq_error_iff_of_zone [Platform] {spec : StageSpec} {timezone : String}
    {fault : Fault} (h : (Platform.zone? timezone).isSome) :
    (build spec timezone).outcome.1 = .error fault ↔
      (readSpan (some (spanText spec))).outcome.1 = .error fault := by
  obtain ⟨zone, hzone⟩ := Option.isSome_iff_exists.1 h
  rw [outcome_build, hzone]
  exact Except.map_eq_error_iff

end TimeChartStage

namespace Stage

variable [Platform] {timezone other : String}

/-- One known zone is as good as another. -/
theorem built_eq_error_iff_of_zones (h : (Platform.zone? timezone).isSome)
    (hother : (Platform.zone? other).isSome) {spec : StageSpec} {fault : Fault} :
    built timezone spec = .error fault ↔ built other spec = .error fault := by
  have hchart : ∀ zone, (Platform.zone? zone).isSome →
      ((do return timechart (← TimeChartStage.build spec zone) : Logged Stage).outcome.1 =
        .error fault ↔
          (TimeChartStage.readSpan (some (TimeChartStage.spanText spec))).outcome.1 =
            .error fault) := by
    intro zone hzone
    rw [Logged.outcome_bind fun _ => Logged.appends_pure _,
      ← TimeChartStage.build_eq_error_iff_of_zone hzone]
    exact Except.map_eq_error_iff
  unfold built build
  generalize Text.lower spec.command = command
  split
  · rfl
  · rfl
  · rfl
  · rfl
  · exact (hchart timezone h).trans (hchart other hother).symm
  · rfl
  · rfl

theorem buildAll_eq_error_iff_of_zones (h : (Platform.zone? timezone).isSome)
    (hother : (Platform.zone? other).isSome) {specs : List StageSpec} {fault : Fault}
    (log : List LogLine) :
    (Call.on (buildAll timezone specs) log).1 = .error fault ↔
      (Call.on (buildAll other specs) log).1 = .error fault := by
  have hbuilt : ∀ spec, (∃ stage, built timezone spec = .ok stage) ↔
      ∃ stage, built other spec = .ok stage := by
    intro spec
    have herror : ∀ fault, built timezone spec = .error fault ↔ built other spec = .error fault :=
      fun fault => built_eq_error_iff_of_zones h hother
    cases hspec : built timezone spec with
    | ok stage =>
        cases hspec' : built other spec with
        | ok stage' => simp
        | error fault' => cases hspec.symm.trans ((herror fault').2 hspec')
    | error fault' =>
        have hspec' := (herror fault').1 hspec
        simp [hspec']
  rw [buildAll_eq_error_iff, buildAll_eq_error_iff]
  simp only [hbuilt, built_eq_error_iff_of_zones h hother]

end Stage

/-! ## Asking sources -/

/-- Sources that give their lists are drained by a merge, whatever its order. -/
theorem MultiStream.Serve.exists_yields {σ : Type} {sources : List (HitStream σ)} {state : σ}
    {queues : List (List Record)} (h : Serve sources state queues)
    (comparator : Option Comparator) :
    ∃ found, Yields state found (.start sources comparator) ∧
      found.length ≤ (start sources comparator).left := by
  have hleft : queues.flatten.length ≤ (start sources comparator).left :=
    Serve.length_le_left (s := start sources comparator) h
  cases comparator with
  | none => exact ⟨_, yields_in_sequence (s := start sources none) h rfl rfl, hleft⟩
  | some c =>
      obtain ⟨merged, hmerged⟩ := exists_merges c queues
      refine ⟨merged, hmerged.yields (s := start sources (some c)) h rfl rfl, ?_⟩
      rw [hmerged.interleaving.perm.length_eq]
      exact hleft

namespace SearchService

/-- **Sources answer**, whatever the merge order and however many hits each is asked for. -/
theorem exists_gathered {settings : SearchSettings} {cap : Int} {w : World MemorySourcing}
    {leases : List LeaseId} (h : w.state.Sound leases) (hbatch : 1 ≤ settings.batchSize)
    (hcap : settings.resultCap = some cap) (m : MergeOrder) (r : SearchRequest) (filter : String) :
    ∃ g found, (Call.on (withSources MemoryIndex.adapter
        ((inMemory settings).visitForPipeline r filter m)
        (fun g => do return (g, ← records (.start g.streams m.comparator?) none))
        ((inMemory settings).sourcesOf r) .empty) w).1 = .ok (g, found) := by
  obtain ⟨readers, v, hleased, hcome⟩ := outcome_withSources
    (fun g => do return (g, ← records (.start g.streams m.comparator?) none))
    (on_visitForPipeline (r := r) hbatch hcap) ((inMemory settings).sourcesOf r) .empty w h
  have hserve := serve_memoryStreams hbatch hleased.isOpen (pipedHits m filter r.range cap)
    fun _ _ _ hh => MemoryReader.mem_search
      (fun _ ho => MergeOrder.isPushable_of_sortOrder? ho) hh
  obtain ⟨found, hyields, hleft⟩ := hserve.exists_yields m.comparator?
  have hrecords := on_records_none hyields hleft
  generalize hcollected : readers.foldl (fun g reader =>
    collectForPipeline settings m filter r.range cap reader g) .empty = g at hcome
  have hstreams : g.streams = readers.map
      fun reader => memoryStream settings reader (pipedHits m filter r.range cap reader) := by
    rw [← hcollected, streams_collected_piped]
  refine ⟨g, found, hcome.trans ?_⟩
  rw [Call.outcome_map (fun found => (g, found)) (fun _ => rfl), hstreams, hrecords]
  rfl

/-- An unknown merge order is refused before any source is asked. -/
theorem searchPiped_of_unknown {settings : SearchSettings}
    (h : settings.mergeOrder ∉ MergeOrder.names) (r : SearchRequest) (filter : String)
    (stages : List Stage) (w : World MemorySourcing) :
    Call.on ((inMemory settings).searchPiped r filter stages) w =
      (.error (.mergeOrder settings.mergeOrder), w) := by
  have hnamed : Call.on (Run.ofExcept (MergeOrder.named settings.mergeOrder)) w =
      (.error (.mergeOrder settings.mergeOrder), w) := by
    rw [Run.on_ofExcept, MergeOrder.named_of_notMem h]
  unfold searchPiped
  rw [Call.on_bind_error hnamed]

/-- In a known merge order, stages are run on some records. -/
theorem exists_searchPiped {settings : SearchSettings} {cap : Int} {w : World MemorySourcing}
    {leases : List LeaseId} (h : w.state.Sound leases) (hbatch : 1 ≤ settings.batchSize)
    (hcap : settings.resultCap = some cap) (hname : settings.mergeOrder ∈ MergeOrder.names)
    (r : SearchRequest) (filter : String) (stages : List Stage) :
    ∃ total found log, (Call.on ((inMemory settings).searchPiped r filter stages) w).1 =
      (Call.on (Stage.runAll stages (.logs found)) log).1.map (pipedResponse total) := by
  obtain ⟨m, hm⟩ := MergeOrder.exists_named_iff.2 hname
  have hnamed : Call.on (Run.ofExcept (MergeOrder.named settings.mergeOrder)) w = (.ok m, w) := by
    rw [Run.on_ofExcept, hm]
  obtain ⟨g, found, hcome⟩ := exists_gathered h hbatch hcap m r filter
  generalize hrun : Call.on (withSources MemoryIndex.adapter
      ((inMemory settings).visitForPipeline r filter m)
      (fun g => do return (g, ← records (.start g.streams m.comparator?) none))
      ((inMemory settings).sourcesOf r) .empty) w = run at hcome
  obtain ⟨outcome, v⟩ := run
  obtain rfl : outcome = _ := hcome
  refine ⟨g.total, found, v.log, ?_⟩
  unfold searchPiped
  rw [Call.on_bind_ok hnamed, Call.on_bind_ok hrun, ← Run.outcome_ofLogged _ v]
  exact Call.outcome_map (pipedResponse g.total) (fun _ => rfl) v

/-- What a search with stages can fail by, where the merge order has a name.  The configuration has
its part in it by that name only. -/
structure StagesDecide [Platform] (s : SearchService MemoryIndex MemoryReader) (order : String)
    (r : SearchRequest) (w : World MemorySourcing) : Prop where
  /-- A stage that is not built, whatever the zone. -/
  building : ∀ fault, (Stage.buildAll "UTC" (Query.read r.query).stages).outcome.1 = .error fault →
    (Call.on (s.search r) w).1 = .error fault
  /-- A name that no merge order has. -/
  unknownOrder : ∀ stages,
    (Stage.buildAll "UTC" (Query.read r.query).stages).outcome.1 = .ok stages →
      order ∉ MergeOrder.names → (Call.on (s.search r) w).1 = .error (.mergeOrder order)
  /-- A stage that fails while it runs. -/
  running : ∀ stages,
    (Stage.buildAll "UTC" (Query.read r.query).stages).outcome.1 = .ok stages →
      order ∈ MergeOrder.names → ∀ fault, (Call.on (s.search r) w).1 = .error fault →
        ∃ stage reason, fault = .execution stage reason

/-- **Searches with stages** fail by their stages or by the merge order: the sources answer, and
known zones are all the same. -/
theorem stagesDecide [Platform] (settings : SearchSettings) {cap : Int} {r : SearchRequest}
    {w : World MemorySourcing} {leases : List LeaseId} (h : w.state.Sound leases)
    (hbatch : 1 ≤ settings.batchSize) (hcap : settings.resultCap = some cap)
    (hzone : (Platform.zone? settings.timezone).isSome)
    (hstages : (Query.read r.query).hasStages = true) :
    (inMemory settings).StagesDecide settings.mergeOrder r w := by
  have hbuild : ∀ fault,
      (Call.on (Stage.buildAll settings.timezone (Query.read r.query).stages) w.log).1 =
        .error fault ↔
      (Stage.buildAll "UTC" (Query.read r.query).stages).outcome.1 = .error fault := by
    intro fault
    rw [Stage.buildAll_eq_error_iff_of_zones hzone (by simp : (Platform.zone? "UTC").isSome) w.log,
      (Stage.appends_buildAll _ _).outcome_eq]
  generalize hrun : Call.on (Stage.buildAll settings.timezone (Query.read r.query).stages) w.log =
    run at hbuild
  obtain ⟨outcome, log⟩ := run
  have hbuilt := Run.on_ofLogged hrun
  have hsearch : (inMemory settings).search r =
      Run.ofLogged (Stage.buildAll settings.timezone (Query.read r.query).stages) >>=
        (inMemory settings).searchPiped r (Query.read r.query).base := by
    unfold search
    simp only [hstages, if_true]
  cases outcome with
  | error fault =>
      have hfails : (Call.on ((inMemory settings).search r) w).1 = .error fault := by
        rw [hsearch, Call.on_bind_error hbuilt]
      have hutc := (hbuild fault).1 rfl
      refine ⟨fun other hother => ?_, fun _ hok => ?_, fun _ hok => ?_⟩
      · cases hother.symm.trans hutc
        exact hfails
      · cases hok.symm.trans hutc
      · cases hok.symm.trans hutc
  | ok stages =>
      have hruns : Call.on ((inMemory settings).search r) w =
          Call.on ((inMemory settings).searchPiped r (Query.read r.query).base stages)
            ⟨w.state, log⟩ := by
        rw [hsearch, Call.on_bind_ok hbuilt]
      refine ⟨fun fault hutc => ?_, fun _ _ hname => ?_, fun _ _ hname fault hfault => ?_⟩
      · cases (hbuild fault).2 hutc
      · rw [hruns, searchPiped_of_unknown hname]
      · obtain ⟨total, found, before, hcome⟩ :=
          exists_searchPiped (w := ⟨w.state, log⟩) h hbatch hcap hname r
            (Query.read r.query).base stages
        rw [hruns, hcome, Except.map_eq_error_iff] at hfault
        obtain ⟨_, stage, _, _, cause, _, _, _, rfl⟩ := Stage.exists_fails_of_runAll hfault
        exact ⟨stage.name, cause.message, rfl⟩

end SearchService

/-! ## Opening -/

/-- An index of some sources has no readers. -/
theorem MemoryIndex.exists_ofSources (sources : List (String × List Record)) :
    ∃ contents, ofSources sources = ⟨contents, 0, []⟩ := by
  have hadd : ∀ contents, ∃ contents', sources.foldl (fun index s => index.add s.1 s.2)
      (⟨contents, 0, []⟩ : MemoryIndex) = ⟨contents', 0, []⟩ := by
    induction sources with
    | nil => exact fun contents => ⟨contents, rfl⟩
    | cons s rest ih => exact fun contents => ih _
  exact hadd .empty

namespace Config

/-- The level of the log is looked up by its name. -/
theorem logRank_of_text {config : Config} {level : String}
    (h : config.logLevel.text? = some level) :
    config.logRank = ((levelRank? level).map .ok).getD (.error (.logLevel level)) := by
  rw [logRank, Datum.text?_eq_some_iff.1 h]
  dsimp only
  cases levelRank? level <;> rfl

theorem path_of_text {config : Config} {data : String} (h : config.dataPath.text? = some data) :
    config.path = .ok (FileTree.pathOf data) := by
  rw [path, Datum.text?_eq_some_iff.1 h]

end Config

namespace Cli

/-- **The service of an accepted configuration** is opened unless the level of the log has no name,
which ends the command with a fault that nobody handles, or the data cannot be loaded.  Once it is
opened, a search with stages fails by its stages, or because the merge order has no name. -/
theorem openService_of_config [Platform] {tree : FileTree} {path : String} {config : Config}
    {data level order : String} (hread : Config.read tree (FileTree.pathOf path) = .ok config)
    (htypes : config.HasTypes data level order) :
    (Text.upper level ∉ levelNames →
      openService tree path = throw (.crash (.logLevel level))) ∧
    (Text.upper level ∈ levelNames →
      (∀ fault, Dataset.load tree (FileTree.pathOf data) = .error fault →
        openService tree path = throw (.crash fault)) ∧
      ∀ dataset, Dataset.load tree (FileTree.pathOf data) = .ok dataset →
        ∃ opened, openService tree path = pure opened ∧
          Leasing.Reachable ⟨⟨opened.index, .empty⟩, []⟩ ∧
          ∀ r (w : World MemorySourcing) leases, Leasing.Reachable ⟨w.state, leases⟩ →
            (Query.read r.query).hasStages = true → opened.service.StagesDecide order r w) := by
  have hrank := Config.logRank_of_text htypes.level
  obtain ⟨settings, cap, hsettings, hbatch, rfl, hcap, hzone⟩ :=
    Config.exists_settings hread htypes
  unfold openService
  rw [hread]
  dsimp only
  constructor
  · intro hname
    rw [levelRank?_eq_none_iff.2 hname] at hrank
    rw [hrank]
    rfl
  · intro hname
    obtain ⟨rank, hlevel⟩ := levelRank?_of_mem hname
    rw [hlevel] at hrank
    rw [hrank, Config.path_of_text htypes.data, hsettings]
    simp only [bind, Except.bind]
    refine ⟨fun fault hfault => ?_, fun dataset hdataset => ?_⟩
    · rw [hfault]
      rfl
    · rw [hdataset]
      obtain ⟨contents, hindex⟩ := MemoryIndex.exists_ofSources dataset.entries
      refine ⟨_, rfl, ⟨contents, [], ?_⟩, fun r w leases hreach hstages => ?_⟩
      · dsimp only
        rw [hindex]
        rfl
      · exact SearchService.stagesDecide { settings with sources := _ } hreach.sound hbatch hcap
          hzone hstages

/-- A configuration with a level that no log has. -/
def loudTree : FileTree :=
  ⟨"", .ofList [(["loud.yaml"],
    .file ("log_level: LOUD\n".toList.map fun c => UInt8.ofNat c.toNat))]⟩

/-- It is accepted, and no service is opened. -/
theorem openService_of_loudTree : ∃ config,
    Config.read loudTree (FileTree.pathOf "loud.yaml") = .ok config ∧
      config.HasTypes "data/samples" "LOUD" "sequential" ∧
      openService loudTree "loud.yaml" = throw (.crash (.logLevel "LOUD")) := by
  have htypes : (Config.read loudTree (FileTree.pathOf "loud.yaml")).toOption.any
      (fun config => config.HasTypes "data/samples" "LOUD" "sequential") = true := by
    decide +kernel
  cases hread : Config.read loudTree (FileTree.pathOf "loud.yaml") with
  | ok config =>
      rw [hread] at htypes
      have htypes := of_decide_eq_true htypes
      exact ⟨config, rfl, htypes, (openService_of_config hread htypes).1 (by decide +kernel)⟩
  | error fault =>
      rw [hread] at htypes
      cases htypes

/-- The command ends with the code of a fault, and not with that of a configuration error. -/
example : (run loudTree "" ["search", "boot", "-c", "loud.yaml"]).code = 1 ∧
    (run loudTree "" ["search", "boot", "-c", "loud.yaml"]).fault = some (.logLevel "LOUD") := by
  decide +kernel

end Cli

end PipeQuery
