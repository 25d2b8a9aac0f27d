import PipeQuery.Proofs.Pipelines
import PipeQuery.Proofs.RowStages
import PipeQuery.Proofs.Tallies
import PipeQuery.Proofs.TimeSpans

/-!
# Order does not matter to aggregation

A search with stages asks its sources in some order and merges their records in
another.  `SearchService.agree_up_to_order` says that neither shows in what a
chain of filters and transforms with an aggregation at its end makes of the
records, except as the order of rows or of series.

The records that two such searches are given are the same up to their order, if
nothing was cut off (`MergeOrder.delivered_perm`, `MemoryIndex.matchLists_perm`);
a chain leaves the same records of them (`RowStage.recordsAfter_perm`); and the
aggregation does not tell in which order it takes them
(`Stage.last_agrees`).
-/

namespace PipeQuery

/-- The results differ in the order of rows or of series only. -/
inductive Result.SameUpToOrder : Result → Result → Prop
  | table {t t' : Table} (h : t.SameRows t') : SameUpToOrder (.table t) (.table t')
  | timechart {c c' : TimeChart} (h : c.SameSeries c') :
      SameUpToOrder (.timechart c) (.timechart c')

/-! ## The records that are found -/

namespace MemoryIndex

/-- The order of the sources shows in the order of their matches only. -/
theorem matchLists_perm {index index' : MemoryIndex} (hcontents : index.contents = index'.contents)
    {sources sources' : List String} (h : sources.Perm sources') (filter : String)
    (range : Option TimeRange) :
    (index.matchLists sources filter range).Perm (index'.matchLists sources' filter range) := by
  rw [matchLists, matchLists, known_congr hcontents]
  exact (h.filterMap _).map _

end MemoryIndex

namespace MergeOrder

variable (m : MergeOrder)

theorem merged_perm (lists : List (List Record)) : (m.merged lists).Perm lists.flatten := by
  cases h : m.comparator? with
  | none => simp only [merged, h, List.Perm.refl]
  | some c =>
      simp only [merged, h]
      exact List.mergeSort_perm _ _

/-- A source that is not cut off gives all it found. -/
theorem firstOf_perm {cap : Nat} {found : List Record} (hcap : found.length ≤ cap) :
    (m.firstOf cap found).Perm found := by
  cases h : m.comparator? with
  | none =>
      simp only [firstOf, h]
      rw [List.take_of_length_le hcap]
  | some c =>
      have hsorted : (c.sort found).Perm found := List.mergeSort_perm _ _
      simp only [firstOf, h]
      rwa [List.take_of_length_le (hsorted.length_eq.trans_le hcap)]

/-- **If no source is cut off, a merge delivers all that was found.** -/
theorem delivered_perm {cap : Nat} {found : List (List Record)}
    (hcap : ∀ l ∈ found, l.length ≤ cap) : (m.delivered cap found).Perm found.flatten := by
  refine (m.merged_perm _).trans (List.Perm.flatten_congr ?_)
  rw [List.forall₂_map_left_iff, List.forall₂_same]
  exact fun l hl => m.firstOf_perm (hcap l hl)

end MergeOrder

theorem RowStage.recordsAfter_perm (chain : List RowStage) {records records' : List Record}
    (h : records.Perm records') : (recordsAfter chain records).Perm (recordsAfter chain records') := by
  induction chain generalizing records records' with
  | nil => exact h
  | cons s rest ih => exact ih (h.filterMap _)

/-! ## The aggregation at the end -/

namespace Stage

/-- An aggregation of some records that does not depend on their order:
statistics that do not round, in groups by at most one field, or a chart over
time all of whose spans have labels. -/
def IsOrderFree (records : List Record) : Stage → Prop
  | .stats s => s.groupBy.length ≤ 1 ∧ ∀ a ∈ s.aggregations, a.measure.IsOrderFree
  | .timechart s => s.HasLabels records
  | _ => False

theorem IsOrderFree.of_perm {last : Stage} {records records' : List Record}
    (hlast : last.IsOrderFree records) (h : records.Perm records') : last.IsOrderFree records' := by
  cases last with
  | timechart s => exact TimeChartStage.HasLabels.of_perm h hlast
  | _ => exact hlast

/-- **An aggregation does not tell in which order it takes the records.** -/
theorem last_agrees {last : Stage} {records records' : List Record} (h : records.Perm records')
    (hlast : last.IsOrderFree records) (log log' : List LogLine) :
    ∃ result result', (Call.on (runAll [last] (.logs records)) log).1 = .ok result ∧
      (Call.on (runAll [last] (.logs records')) log').1 = .ok result' ∧
      result.SameUpToOrder result' := by
  cases last with
  | stats s =>
      obtain ⟨hgroup, hfree⟩ := hlast
      exact ⟨.table (s.aggregate records), .table (s.aggregate records'), rfl, rfl,
        .table (Stats.aggregate_of_perm hgroup hfree h)⟩
  | timechart s =>
      obtain ⟨c, c', hc, hc', hsame⟩ := TimeChartStage.bucket_of_perm h hlast
      have hrun : ∀ {records : List Record} {c : TimeChart} (log : List LogLine),
          s.bucket records = .ok c →
          (Call.on (runAll [.timechart s] (.logs records)) log).1 = .ok (.timechart c) := by
        intro records c log hc
        unfold runAll step guarded execute
        simp only [hc]
        rfl
      exact ⟨.timechart c, .timechart c', hrun log hc, hrun log' hc', .timechart hsame⟩
  | filter s => exact hlast.elim
  | transform s => exact hlast.elim
  | chart s => exact hlast.elim
  | exporting s => exact hlast.elim

end Stage

/-! ## Two searches -/

namespace SearchService

/-- A search with stages that nothing is cut off of: `cap` is no less than the
number of matches of any of its sources. -/
structure Uncut [Platform] (settings : SearchSettings) (r : SearchRequest) (w : World MemorySourcing)
    (stages : List Stage) : Prop where
  reachable : ∃ leases, Leasing.Reachable ⟨w.state, leases⟩
  batch : 1 ≤ settings.batchSize
  merged : ∃ m, MergeOrder.named settings.mergeOrder = .ok m
  uncut : ∃ cap, settings.resultCap = some cap ∧
    ∀ l ∈ (inMemory settings).found r w.state.outside, (l.length : Int) ≤ cap
  piped : (Query.read r.query).hasStages = true
  built : ∃ log, Call.on (Stage.buildAll settings.timezone (Query.read r.query).stages) w.log =
    (.ok stages, log)

/-- Without matches in any source, nothing is gathered, whatever the cap. -/
theorem outcome_gathered_nothing {settings : SearchSettings} (m : MergeOrder) {cap : Int}
    {r : SearchRequest} {w : World MemorySourcing} {leases : List LeaseId}
    (h : w.state.Sound leases) (hbatch : 1 ≤ settings.batchSize)
    (hcap : settings.resultCap = some cap)
    (hfound : (inMemory settings).found r w.state.outside = []) :
    ∃ g : Gathering MemoryIndex MemoryReader,
      (Call.on (withSources MemoryIndex.adapter
        ((inMemory settings).visitForPipeline r (Query.read r.query).base m)
        (fun g => do return (g, ← records (.start g.streams m.comparator?) none))
        ((inMemory settings).sourcesOf r) .empty) w).1 = .ok (g, []) := by
  have hvisit : ∀ reader g (w : World MemorySourcing),
      Call.on ((inMemory settings).visitForPipeline r (Query.read r.query).base m
        reader.source reader g) w =
        (.ok (collectForPipeline settings m (Query.read r.query).base r.range cap reader g), w) :=
    fun reader g w => on_visitForPipeline hbatch hcap reader g w
  obtain ⟨readers, v, hleased, hcome⟩ := outcome_withSources
    (fun g => do return (g, ← records (.start g.streams m.comparator?) none)) hvisit
    ((inMemory settings).sourcesOf r) .empty w h
  have hreaders : readers = [] := by
    rw [← List.map_eq_nil_iff]
    exact (hleased.matchLists _ _).trans hfound
  have hnothing : Call.on (records (.start [] m.comparator?) none) v = (.ok [], v) := by
    cases m <;> rfl
  subst hreaders
  exact ⟨.empty, hcome.trans (congrArg Prod.fst (Call.on_bind_ok hnothing))⟩

/-- What is gathered if no source is cut off: all matches, in some order. -/
theorem outcome_gathered_uncut {settings : SearchSettings} (m : MergeOrder) {cap : Int}
    {r : SearchRequest} {w : World MemorySourcing} {leases : List LeaseId}
    (h : w.state.Sound leases) (hbatch : 1 ≤ settings.batchSize)
    (hcap : settings.resultCap = some cap)
    (huncut : ∀ l ∈ (inMemory settings).found r w.state.outside, (l.length : Int) ≤ cap) :
    ∃ (g : Gathering MemoryIndex MemoryReader) (given : List Record),
      given.Perm ((inMemory settings).found r w.state.outside).flatten ∧
      (Call.on (withSources MemoryIndex.adapter
        ((inMemory settings).visitForPipeline r (Query.read r.query).base m)
        (fun g => do return (g, ← records (.start g.streams m.comparator?) none))
        ((inMemory settings).sourcesOf r) .empty) w).1 = .ok (g, given) := by
  by_cases hnonneg : 0 ≤ cap
  · obtain ⟨g, _, hcome⟩ := outcome_gathered (m := m) (r := r) h hbatch hcap hnonneg
    refine ⟨g, _, m.delivered_perm fun l hl => ?_, hcome⟩
    have := huncut l hl
    omega
  · -- a negative cap is below any number of matches, so there is no source
    have hfound : (inMemory settings).found r w.state.outside = [] := by
      rw [List.eq_nil_iff_forall_not_mem]
      intro l hl
      have := huncut l hl
      omega
    obtain ⟨g, hcome⟩ := outcome_gathered_nothing m h hbatch hcap hfound
    exact ⟨g, [], by rw [hfound]; rfl, hcome⟩

/-- **A search that nothing is cut off of** gives its stages all matches of its
sources, in some order. -/
theorem Uncut.outcome [Platform] {settings : SearchSettings} {r : SearchRequest}
    {w : World MemorySourcing} {stages : List Stage} (h : Uncut settings r w stages) :
    ∃ given total before,
      given.Perm ((inMemory settings).found r w.state.outside).flatten ∧
      (Call.on ((inMemory settings).search r) w).1 =
        (Call.on (Stage.runAll stages (.logs given)) before).1.map (pipedResponse total) := by
  obtain ⟨leases, hreach⟩ := h.reachable
  obtain ⟨m, hm⟩ := h.merged
  obtain ⟨cap, hcap, huncut⟩ := h.uncut
  obtain ⟨log, hbuild⟩ := h.built
  have hbuilt : Call.on (Run.ofLogged
      (Stage.buildAll settings.timezone (Query.read r.query).stages)) w =
        (.ok stages, { w with log := log }) := Run.on_ofLogged hbuild
  have hnamed : Call.on (Run.ofExcept (MergeOrder.named settings.mergeOrder))
      ({ w with log := log } : World MemorySourcing) = (.ok m, { w with log := log }) := by
    rw [Run.on_ofExcept, hm]
  obtain ⟨g, given, hgiven, hcome⟩ := outcome_gathered_uncut m (w := { w with log := log })
    hreach.sound h.batch hcap huncut
  generalize hrun : Call.on (withSources MemoryIndex.adapter
      ((inMemory settings).visitForPipeline r (Query.read r.query).base m)
      (fun g => do return (g, ← records (.start g.streams m.comparator?) none))
      ((inMemory settings).sourcesOf r) .empty) ({ w with log := log } : World MemorySourcing) =
      run at hcome
  obtain ⟨outcome, v⟩ := run
  obtain rfl : outcome = _ := hcome
  refine ⟨given, g.total, v.log, hgiven, ?_⟩
  unfold search searchPiped
  simp only [h.piped, if_true]
  rw [Call.on_bind_ok hbuilt, Call.on_bind_ok hnamed, Call.on_bind_ok hrun]
  refine (Call.outcome_map (pipedResponse g.total) (fun _ => rfl) v).trans ?_
  rw [Run.outcome_ofLogged]

/-- **The order of the sources and the order of the merge show in the order of
rows or of series only**: two searches of one filter on the same sources come,
after any histories of their caches, to the same table or chart over time up to
that order.  The stages are a chain of filters and transforms and one
aggregation. -/
theorem agree_up_to_order [Platform] {settings settings' : SearchSettings} {r r' : SearchRequest}
    {w w' : World MemorySourcing} {chain : List RowStage} {last : Stage}
    (h : Uncut settings r w (chain.map RowStage.toStage ++ [last]))
    (h' : Uncut settings' r' w' (chain.map RowStage.toStage ++ [last]))
    (hcontents : w.state.outside.contents = w'.state.outside.contents)
    (hbase : (Query.read r.query).base = (Query.read r'.query).base) (hrange : r.range = r'.range)
    (hsources : ((inMemory settings).sourcesOf r).Perm ((inMemory settings').sourcesOf r'))
    (hlast : last.IsOrderFree
      (RowStage.recordsAfter chain ((inMemory settings).found r w.state.outside).flatten)) :
    ∃ a a' result result',
      (Call.on ((inMemory settings).search r) w).1 = .ok a ∧
      (Call.on ((inMemory settings').search r') w').1 = .ok a' ∧
      a.piped = some result ∧ a'.piped = some result' ∧ result.SameUpToOrder result' := by
  obtain ⟨given, total, before, hgiven, hcome⟩ := h.outcome
  obtain ⟨given', total', before', hgiven', hcome'⟩ := h'.outcome
  have hfound : ((inMemory settings).found r w.state.outside).Perm
      ((inMemory settings').found r' w'.state.outside) := by
    rw [found, found, ← hbase, ← hrange]
    exact MemoryIndex.matchLists_perm hcontents hsources _ _
  have hleft : (RowStage.recordsAfter chain given).Perm (RowStage.recordsAfter chain given') :=
    RowStage.recordsAfter_perm chain (hgiven.trans (hfound.flatten.trans hgiven'.symm))
  have hfree : last.IsOrderFree (RowStage.recordsAfter chain given) :=
    hlast.of_perm (RowStage.recordsAfter_perm chain hgiven.symm)
  obtain ⟨result, result', hrun, hrun', hsame⟩ := Stage.last_agrees hleft hfree before before'
  rw [RowStage.on_runAll_logs, hrun] at hcome
  rw [RowStage.on_runAll_logs, hrun'] at hcome'
  exact ⟨_, _, result, result', hcome, hcome', rfl, rfl, hsame⟩

/-- Two sources with records of two levels. -/
def levelsOfTwo : OrderedMap String SourceContent :=
  .ofList [
    ("app", ⟨[
      { (default : Record) with fields := .ofList [("level", "info"), ("latency", "12ms")] },
      { (default : Record) with fields := .ofList [("level", "warn"), ("latency", "7")] }], 1⟩),
    ("db", ⟨[
      { (default : Record) with fields := .ofList [("level", "info"), ("latency", "30")] }], 1⟩)]

/-- Settings that merge in an order. -/
def mergingBy (name : String) : SearchSettings := { SearchSettings.standard with mergeOrder := name }

/-- The greatest latency of each level, which is renamed. -/
def slowestQuery : String := "| transform rename level as severity | stats max(latency) by severity"

/-- The search for them in some sources. -/
def slowestIn (sources : List String) : SearchRequest :=
  { SearchRequest.ofQuery slowestQuery with sources := sources }

theorem slowestIn_uncut {name : String} {sources : List String}
    (hname : ∃ m, MergeOrder.named name = .ok m)
    (hfew : ∀ l ∈ (inMemory (mergingBy name)).found (slowestIn sources)
      (Leasing.start levelsOfTwo).sourcing.outside, (l.length : Int) ≤ 10000) :
    Uncut (mergingBy name) (slowestIn sources) ⟨(Leasing.start levelsOfTwo).sourcing, []⟩
      ([RowStage.transform (.rename "level" "severity")].map RowStage.toStage ++
        [.stats ⟨[⟨"max(latency)", .ofField .greatest "latency"⟩], ["severity"]⟩]) := by
  have hpiped : (Query.read slowestQuery).hasStages = true := by decide +kernel
  have hread : (Query.read slowestQuery).stages =
      [⟨"transform", ["rename", "level", "as", "severity"], .empty⟩,
        ⟨"stats", ["max(latency)", "by", "severity"], .empty⟩] := by decide +kernel
  have hrename : Transform.build ⟨"transform", ["rename", "level", "as", "severity"], .empty⟩ =
      .ok (.rename "level" "severity") := by decide +kernel
  have hgreatest : Stats.build ⟨"stats", ["max(latency)", "by", "severity"], .empty⟩ =
      .ok ⟨[⟨"max(latency)", .ofField .greatest "latency"⟩], ["severity"]⟩ := by decide +kernel
  have hbuilt : ∃ log, Call.on (Stage.buildAll "UTC" (Query.read slowestQuery).stages) [] =
      (.ok ([RowStage.transform (.rename "level" "severity")].map RowStage.toStage ++
        [.stats ⟨[⟨"max(latency)", .ofField .greatest "latency"⟩], ["severity"]⟩]), log) := by
    rw [hread]
    refine Stage.on_buildAll_of_built (.cons ?_ (.cons ?_ .nil)) []
    · rw [Stage.built_transform _ _ _ (by decide), hrename]
      rfl
    · rw [Stage.built_stats _ _ _ (by decide), hgreatest]
      rfl
  have hbatch : 1 ≤ SearchSettings.standard.batchSize := by decide
  exact ⟨⟨[], levelsOfTwo, [], rfl⟩, hbatch, hname, ⟨10000, rfl, hfew⟩, hpiped, hbuilt⟩

/-- Neither the order of the sources nor that of the merge changes the greatest
latencies. -/
theorem slowestIn_agrees :
    ∃ a a' result result',
      (Call.on ((inMemory (mergingBy "sequential")).search (slowestIn ["app", "db"]))
        ⟨(Leasing.start levelsOfTwo).sourcing, []⟩).1 = .ok a ∧
      (Call.on ((inMemory (mergingBy "timestamp_desc")).search (slowestIn ["db", "app"]))
        ⟨(Leasing.start levelsOfTwo).sourcing, []⟩).1 = .ok a' ∧
      a.piped = some result ∧ a'.piped = some result' ∧ result.SameUpToOrder result' :=
  agree_up_to_order (slowestIn_uncut ⟨_, rfl⟩ (by decide +kernel))
    (slowestIn_uncut ⟨_, rfl⟩ (by decide +kernel)) rfl rfl rfl
    (List.Perm.swap "db" "app" []) ⟨by decide, by simp [Measure.IsOrderFree]⟩

end SearchService

end PipeQuery
