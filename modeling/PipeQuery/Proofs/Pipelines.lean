import PipeQuery.Platform.Standard
import PipeQuery.Proofs.Building
import PipeQuery.Proofs.Gathering
import Mathlib.Algebra.GroupWithZero.Nat

/-!
# What a pipeline is given

A search with stages takes the first hits of each source in merge order and
gives the merged records to its stages.  `outcome_of_pipeline` says which
records these are: those of one source after the other, or the stable sort of
what each source gave.  Although each source was cut off, the first records of
the sort are those of the sort of all matches.

The order that sources are asked for and the comparator of the merge come from
one name (`MergeOrder.firstOf_of_some` and `MergeOrder.merged_of_some`); a merge
of lists in another order would not be sorted.
-/

namespace PipeQuery

namespace MergeOrder

/-- The first records that a source gives, of those found in it. -/
def firstOf (m : MergeOrder) (cap : Nat) (found : List Record) : List Record :=
  (match m.comparator? with
    | none => found
    | some c => c.sort found).take cap

/-- The lists of several sources put together. -/
def merged (m : MergeOrder) (lists : List (List Record)) : List Record :=
  match m.comparator? with
  | none => lists.flatten
  | some c => c.sort lists.flatten

/-- What a merge is given to deliver, of what was found in each source. -/
def delivered (m : MergeOrder) (cap : Nat) (found : List (List Record)) : List Record :=
  m.merged (found.map (m.firstOf cap))

/-- Sources know the orders that records are merged in. -/
theorem isPushable_of_sortOrder? {m : MergeOrder} {o : SortOrder} (h : m.sortOrder? = some o) :
    o.key.isPushable = true := by
  cases m with
  | sequential => cases h
  | score => rw [← Option.some.inj h]; rfl
  | timestamp descending => rw [← Option.some.inj h]; rfl

theorem comparator?_of_none {m : MergeOrder} (h : m.sortOrder? = none) : m.comparator? = none := by
  rw [comparator?, h, Option.map_none]

theorem comparator?_of_some {m : MergeOrder} {o : SortOrder} (h : m.sortOrder? = some o) :
    m.comparator? = some (Comparator.ofOrder o) := by
  rw [comparator?, h, Option.map_some]

theorem length_firstOf (m : MergeOrder) (cap : Nat) (found : List Record) :
    (m.firstOf cap found).length = min cap found.length := by
  cases h : m.comparator? with
  | none => simp only [firstOf, h, List.length_take]
  | some c => simp only [firstOf, h, List.length_take, Comparator.sort, List.length_mergeSort]

theorem length_merged (m : MergeOrder) (lists : List (List Record)) :
    (m.merged lists).length = lists.flatten.length := by
  cases h : m.comparator? with
  | none => simp only [merged, h]
  | some c => simp only [merged, h, Comparator.sort, List.length_mergeSort]

theorem firstOf_of_none {m : MergeOrder} (h : m.sortOrder? = none) (cap : Nat)
    (found : List Record) : m.firstOf cap found = found.take cap := by
  rw [firstOf, comparator?_of_none h]

theorem merged_of_none {m : MergeOrder} (h : m.sortOrder? = none) (lists : List (List Record)) :
    m.merged lists = lists.flatten := by
  rw [merged, comparator?_of_none h]

/-- **What sources are asked for and what the merge goes by are one order**:
a source sorts by the rank that the merge compares. -/
theorem firstOf_of_some {m : MergeOrder} {o : SortOrder} (h : m.sortOrder? = some o) (cap : Nat)
    {found : List Record} (hfound : Comparator.ScoresAreNumbers found) :
    m.firstOf cap found = (sortBy o.rank found).take cap := by
  rw [firstOf, comparator?_of_some h, ← Comparator.sort_eq_sortBy
    (Comparator.ofOrder_rankedBy (isPushable_of_sortOrder? h) hfound)]

theorem merged_of_some {m : MergeOrder} {o : SortOrder} (h : m.sortOrder? = some o)
    {lists : List (List Record)} (hlists : ∀ l ∈ lists, Comparator.ScoresAreNumbers l) :
    m.merged lists = sortBy o.rank lists.flatten := by
  rw [merged, comparator?_of_some h, ← Comparator.sort_eq_sortBy
    (Comparator.ofOrder_rankedBy (isPushable_of_sortOrder? h)
      (Comparator.scoresAreNumbers_flatten hlists))]

theorem scoresAreNumbers_firstOf (m : MergeOrder) (cap : Nat) {found : List Record}
    (hfound : Comparator.ScoresAreNumbers found) :
    Comparator.ScoresAreNumbers (m.firstOf cap found) := by
  cases h : m.sortOrder? with
  | none =>
      rw [firstOf_of_none h]
      exact hfound.mono fun r hr => List.mem_of_mem_take hr
  | some o =>
      rw [firstOf_of_some h cap hfound]
      exact hfound.mono fun r hr => (mem_sortBy _).1 (List.mem_of_mem_take hr)

/-- **Cutting off each source does not show in the first records**, whatever it
cut off. -/
theorem take_delivered {m : MergeOrder} {c : Comparator} (h : m.comparator? = some c)
    {found : List (List Record)} (hfound : ∀ l ∈ found, Comparator.ScoresAreNumbers l)
    (cap : Nat) :
    (m.delivered cap found).take cap = (c.sort found.flatten).take cap := by
  obtain ⟨o, ho, rfl⟩ := Option.map_eq_some_iff.1 h
  have hfirst : found.map (m.firstOf cap) = found.map fun l => (sortBy o.rank l).take cap :=
    List.map_congr_left fun l hl => firstOf_of_some ho cap (hfound l hl)
  have hnumbers : ∀ l ∈ found.map (m.firstOf cap), Comparator.ScoresAreNumbers l := by
    intro l hl
    obtain ⟨l₀, hl₀, rfl⟩ := List.mem_map.1 hl
    exact scoresAreNumbers_firstOf m cap (hfound l₀ hl₀)
  rw [delivered, merged_of_some ho hnumbers, hfirst, take_sortBy_flatten_take,
    Comparator.sort_eq_sortBy (Comparator.ofOrder_rankedBy (isPushable_of_sortOrder? ho)
      (Comparator.scoresAreNumbers_flatten hfound))]

end MergeOrder

namespace SearchService

/-- The number of hits that sources give, of what was found in each. -/
def cappedTotal (cap : Nat) (found : List (List Record)) : Nat :=
  (found.map fun l => min cap l.length).sum

section Collecting

variable {settings : SearchSettings} {m : MergeOrder} {filter : String}
  {range : Option TimeRange} {cap : Int}

/-- The hits that a reader gives to the pipeline. -/
def pipedHits (m : MergeOrder) (filter : String) (range : Option TimeRange) (cap : Int)
    (reader : MemoryReader) : List Hit :=
  reader.search filter range (some cap) m.sortOrder?

/-- What a reader adds to the pipeline. -/
def collectForPipeline (settings : SearchSettings) (m : MergeOrder) (filter : String)
    (range : Option TimeRange) (cap : Int) (reader : MemoryReader)
    (g : Gathering MemoryIndex MemoryReader) : Gathering MemoryIndex MemoryReader where
  total := g.total + (pipedHits m filter range cap reader).length
  facets := g.facets
  streams := g.streams ++ [memoryStream settings reader (pipedHits m filter range cap reader)]

theorem on_visitForPipeline (hsize : 1 ≤ settings.batchSize) (hcap : settings.resultCap = some cap)
    {r : SearchRequest} (reader : MemoryReader) (g : Gathering MemoryIndex MemoryReader)
    (w : World MemorySourcing) :
    Call.on (visitForPipeline (inMemory settings) r filter m reader.source reader g) w =
      (.ok (collectForPipeline settings m filter r.range cap reader g), w) := by
  have hsearch : Call.on (ask reader.source
      (MemoryIndex.adapter.search reader filter r.range settings.resultCap m.sortOrder?)) w =
        (.ok (pipedHits m filter r.range cap reader), w) := by
    rw [hcap]
    exact on_ask_pure _ _ w
  have hstream := on_streamOf hsize reader (pipedHits m filter r.range cap reader) w
  unfold visitForPipeline
  rw [Call.on_bind_ok hsearch, Call.on_bind_ok hstream]
  rfl

theorem foldl_collectForPipeline (readers : List MemoryReader)
    (g : Gathering MemoryIndex MemoryReader) :
    readers.foldl (fun g r => collectForPipeline settings m filter range cap r g) g =
      { total := g.total +
          (readers.map fun r => (pipedHits m filter range cap r).length).sum
        facets := g.facets
        streams := g.streams ++ readers.map
          fun r => memoryStream settings r (pipedHits m filter range cap r) } := by
  induction readers generalizing g with
  | nil => simp
  | cons r rest ih =>
      rw [List.foldl_cons, ih]
      simp only [collectForPipeline, List.map_cons, List.sum_cons, List.append_assoc,
        List.singleton_append, Int.natCast_add, Int.add_assoc]

/-- The hits of a reader stand for the first of its matches. -/
theorem map_shown_pipedHits (hcap : 0 ≤ cap) (reader : MemoryReader) :
    (pipedHits m filter range cap reader).map reader.shown =
      m.firstOf cap.toNat (matchesIn reader.source reader.records filter range) := by
  cases ho : m.sortOrder? with
  | none =>
      rw [pipedHits, ho, MemoryReader.map_shown_search_none _ _ _ hcap,
        MergeOrder.firstOf_of_none ho]
  | some o =>
      rw [pipedHits, ho, MemoryReader.map_shown_search
        (MergeOrder.isPushable_of_sortOrder? ho) _ _ hcap,
        MergeOrder.firstOf_of_some ho _ (scoresAreNumbers_matchesIn _ _ _ _)]

theorem length_pipedHits (hcap : 0 ≤ cap) (reader : MemoryReader) :
    (pipedHits m filter range cap reader).length =
      min cap.toNat (matchesIn reader.source reader.records filter range).length := by
  rw [← List.length_map (f := reader.shown), map_shown_pipedHits hcap, MergeOrder.length_firstOf]

/-- The streams that come of some readers. -/
theorem streams_collected_piped (readers : List MemoryReader) :
    (readers.foldl (fun g r => collectForPipeline settings m filter range cap r g) .empty).streams =
      readers.map fun r => memoryStream settings r (pipedHits m filter range cap r) := by
  rw [foldl_collectForPipeline]
  rfl

/-- The number of hits that come of some readers. -/
theorem total_collected_piped (hcap : 0 ≤ cap) (readers : List MemoryReader) :
    (readers.foldl (fun g r => collectForPipeline settings m filter range cap r g) .empty).total =
      cappedTotal cap.toNat
        (readers.map fun r => matchesIn r.source r.records filter range) := by
  rw [foldl_collectForPipeline, cappedTotal, List.map_map]
  show (0 : Int) + _ = _
  rw [Int.zero_add]
  congr 2
  exact List.map_congr_left fun r _ => length_pipedHits hcap r

variable (m filter range) in
/-- What the readers give is a part of what was found. -/
theorem serve_pipeline (hsize : 1 ≤ settings.batchSize) (hcap : 0 ≤ cap)
    {readers : List MemoryReader} {s : MemorySourcing}
    (hopen : ∀ r ∈ readers, s.outside.isClosed r = false) :
    MultiStream.Serve
      (readers.map fun r => memoryStream settings r (pipedHits m filter range cap r)) s
      ((readers.map fun r => matchesIn r.source r.records filter range).map
        (m.firstOf cap.toNat)) := by
  have hserve := serve_memoryStreams hsize hopen (pipedHits m filter range cap) fun r _ h hh =>
    MemoryReader.mem_search (fun o ho => MergeOrder.isPushable_of_sortOrder? ho) hh
  rw [List.map_map]
  simp only [map_shown_pipedHits hcap] at hserve
  exact hserve

variable (m filter range) in
/-- The merged streams deliver what each reader gives. -/
theorem yields_pipeline (hsize : 1 ≤ settings.batchSize) (hcap : 0 ≤ cap)
    {readers : List MemoryReader} {s : MemorySourcing}
    (hopen : ∀ r ∈ readers, s.outside.isClosed r = false) :
    MultiStream.Yields s
      (m.delivered cap.toNat (readers.map fun r => matchesIn r.source r.records filter range))
      (.start (readers.map fun r => memoryStream settings r (pipedHits m filter range cap r))
        m.comparator?) := by
  have hserve := serve_pipeline m filter range hsize hcap hopen
  have hnumbers : ∀ l ∈ (readers.map fun r =>
      matchesIn r.source r.records filter range).map (m.firstOf cap.toNat),
      Comparator.ScoresAreNumbers l := by
    intro l hl
    obtain ⟨l₀, hl₀, rfl⟩ := List.mem_map.1 hl
    obtain ⟨r, _, rfl⟩ := List.mem_map.1 hl₀
    exact MergeOrder.scoresAreNumbers_firstOf m _ (scoresAreNumbers_matchesIn _ _ _ _)
  cases ho : m.sortOrder? with
  | none =>
      rw [MergeOrder.delivered, MergeOrder.merged_of_none ho, MergeOrder.comparator?_of_none ho]
      exact MultiStream.yields_in_sequence (s := .start _ _) hserve rfl rfl
  | some o =>
      rw [MergeOrder.delivered, MergeOrder.merged_of_some ho hnumbers,
        MergeOrder.comparator?_of_some ho]
      refine MultiStream.yields_merged (s := .start _ _) hserve rfl rfl
        (Comparator.ofOrder_rankedBy (MergeOrder.isPushable_of_sortOrder? ho)
          (Comparator.scoresAreNumbers_flatten hnumbers)) ?_
      intro l hl
      obtain ⟨l₀, hl₀, rfl⟩ := List.mem_map.1 hl
      obtain ⟨r, _, rfl⟩ := List.mem_map.1 hl₀
      rw [MergeOrder.firstOf_of_some ho _ (scoresAreNumbers_matchesIn _ _ _ _)]
      exact ascendingBy_take_sortBy _ _ _

end Collecting

/-- What a search with stages answers. -/
def pipedResponse (total : Int) (result : Result) : SearchResponse :=
  let kept := match result with
    | .logs kept => some kept
    | _ => none
  { records := kept.getD []
    totalHits := total
    filteredHits := (kept.map fun kept => (kept.length : Int)).getD total
    page := 0
    pageSize := (kept.getD []).length
    facets := .empty
    piped := some result
    phases := [.retrieval, .pipeline] }

/-- What is gathered for a pipeline: the records that the merge delivers. -/
theorem outcome_gathered {settings : SearchSettings} {m : MergeOrder} {cap : Int}
    {r : SearchRequest} {w : World MemorySourcing} {leases : List LeaseId}
    (h : w.state.Sound leases) (hbatch : 1 ≤ settings.batchSize)
    (hcap : settings.resultCap = some cap) (hnonneg : 0 ≤ cap) :
    ∃ g : Gathering MemoryIndex MemoryReader,
      g.total = cappedTotal cap.toNat ((inMemory settings).found r w.state.outside) ∧
      (Call.on (withSources MemoryIndex.adapter
        ((inMemory settings).visitForPipeline r (Query.read r.query).base m)
        (fun g => do return (g, ← records (.start g.streams m.comparator?) none))
        ((inMemory settings).sourcesOf r) .empty) w).1 =
      .ok (g, m.delivered cap.toNat ((inMemory settings).found r w.state.outside)) := by
  have hvisit : ∀ reader g (w : World MemorySourcing),
      Call.on ((inMemory settings).visitForPipeline r (Query.read r.query).base m
        reader.source reader g) w =
        (.ok (collectForPipeline settings m (Query.read r.query).base r.range cap reader g), w) :=
    fun reader g w => on_visitForPipeline hbatch hcap reader g w
  obtain ⟨readers, v, hleased, hcome⟩ := outcome_withSources
    (fun g => do return (g, ← records (.start g.streams m.comparator?) none)) hvisit
    ((inMemory settings).sourcesOf r) .empty w h
  have hfound : readers.map (fun reader =>
      matchesIn reader.source reader.records (Query.read r.query).base r.range) =
        (inMemory settings).found r w.state.outside := hleased.matchLists _ _
  have hrecords := on_records_none
    (yields_pipeline m (Query.read r.query).base r.range hbatch hnonneg hleased.isOpen)
    (by
      rw [MergeOrder.delivered, MergeOrder.length_merged]
      exact MultiStream.Serve.length_le_left (s := .start _ m.comparator?)
        (serve_pipeline m (Query.read r.query).base r.range hbatch hnonneg hleased.isOpen))
  have hfinish : ∀ g : Gathering MemoryIndex MemoryReader,
      (Call.on (do return (g, ← records (.start g.streams m.comparator?) none)) v).1 =
      (Call.on (records (.start g.streams m.comparator?) none) v).1.map
        fun found => (g, found) := fun g => Call.outcome_map _ (fun _ => rfl) v
  rw [hfound] at hrecords
  refine ⟨readers.foldl (fun g reader =>
    collectForPipeline settings m (Query.read r.query).base r.range cap reader g) .empty, ?_, ?_⟩
  · rw [total_collected_piped hnonneg, hfound]
  · rw [hcome, hfinish, streams_collected_piped, hrecords]
    rfl

/-- **What a pipeline is given**, after any history of the cache: the merge of
what each known source gave, which are its first matches in merge order.  The
search counts those hits, and in every order but the sequential one, its first
records are those of the sort of all matches, whatever was cut off. -/
theorem outcome_of_pipeline [Platform] {settings : SearchSettings} {m : MergeOrder} {cap : Int}
    {r : SearchRequest} {w : World MemorySourcing} {leases : List LeaseId} {stages : List Stage}
    {log : List LogLine} (hreach : Leasing.Reachable ⟨w.state, leases⟩)
    (hbatch : 1 ≤ settings.batchSize) (hm : MergeOrder.named settings.mergeOrder = .ok m)
    (hcap : settings.resultCap = some cap) (hnonneg : 0 ≤ cap)
    (hstages : (Query.read r.query).hasStages = true)
    (hbuild : Call.on (Stage.buildAll settings.timezone (Query.read r.query).stages) w.log =
      (.ok stages, log)) :
    (∃ before, (Call.on ((inMemory settings).search r) w).1 =
      (Call.on (Stage.runAll stages (.logs
          (m.delivered cap.toNat ((inMemory settings).found r w.state.outside)))) before).1.map
        (pipedResponse (cappedTotal cap.toNat ((inMemory settings).found r w.state.outside)))) ∧
    ∀ c, m.comparator? = some c →
      (m.delivered cap.toNat ((inMemory settings).found r w.state.outside)).take cap.toNat =
        (c.sort ((inMemory settings).found r w.state.outside).flatten).take cap.toNat := by
  constructor
  · have hbuilt : Call.on (Run.ofLogged
        (Stage.buildAll settings.timezone (Query.read r.query).stages)) w =
          (.ok stages, { w with log := log }) := Run.on_ofLogged hbuild
    have hnamed : Call.on (Run.ofExcept (MergeOrder.named settings.mergeOrder))
        ({ w with log := log } : World MemorySourcing) = (.ok m, { w with log := log }) := by
      rw [Run.on_ofExcept, hm]
    obtain ⟨g, htotal, hcome⟩ := outcome_gathered (m := m) (r := r)
      (w := { w with log := log }) hreach.sound hbatch hcap hnonneg
    generalize hrun : Call.on (withSources MemoryIndex.adapter
        ((inMemory settings).visitForPipeline r (Query.read r.query).base m)
        (fun g => do return (g, ← records (.start g.streams m.comparator?) none))
        ((inMemory settings).sourcesOf r) .empty) ({ w with log := log } : World MemorySourcing) =
        run at hcome
    obtain ⟨outcome, v⟩ := run
    obtain rfl : outcome = _ := hcome
    refine ⟨v.log, ?_⟩
    unfold search searchPiped
    simp only [hstages, if_true]
    rw [Call.on_bind_ok hbuilt, Call.on_bind_ok hnamed, Call.on_bind_ok hrun, ← htotal]
    refine (Call.outcome_map (pipedResponse g.total) (fun _ => rfl) v).trans ?_
    rw [Run.outcome_ofLogged]
  · intro c hc
    exact MergeOrder.take_delivered hc (scoresAreNumbers_found _ _ _) _

/-- Merges the two newest records of each source, and no others. -/
def newestOfEach : SearchSettings :=
  { SearchSettings.standard with
    sources := ["app", "db"], mergeOrder := "timestamp_desc", resultCap := some 2 }

/-- A search for what is told at one level. -/
def askInfo : SearchRequest := .ofQuery "| filter level = info"

open MemoryIndex in
theorem found_askInfo :
    (inMemory newestOfEach).found askInfo (Leasing.start sameSeconds).sourcing.outside =
      [[stampedIn "app" "a" 1 "info", stampedIn "app" "b" 3 "info", stampedIn "app" "c" 1 "info"],
        [stampedIn "db" "d" 1 "info", stampedIn "db" "e" 3 "warn"]] := by
  decide +kernel

open MemoryIndex in
/-- The third record of the first source is cut off, and records of one second
stay in the order of their sources. -/
theorem delivered_askInfo :
    (MergeOrder.timestamp true).delivered 2
        ((inMemory newestOfEach).found askInfo (Leasing.start sameSeconds).sourcing.outside) =
      [stampedIn "app" "b" 3 "info", stampedIn "db" "e" 3 "warn", stampedIn "app" "a" 1 "info",
        stampedIn "db" "d" 1 "info"] := by
  rw [found_askInfo]
  show Comparator.sort (Comparator.byTimestamp true)
    ([(Comparator.sort (Comparator.byTimestamp true) _).take 2,
      (Comparator.sort (Comparator.byTimestamp true) _).take 2]).flatten = _
  simp [Comparator.sort, List.mergeSort, List.MergeSort.Internal.splitInTwo,
    byTimestamp_stampedIn, Comparator.turn, compare, compareOfLessAndEq]

open MemoryIndex in
/-- Four records come to the filter, of which one is dropped; the first two are
the newest of all. -/
theorem outcome_of_newest :
    (Call.on ((inMemory newestOfEach).search askInfo)
        ⟨(Leasing.start sameSeconds).sourcing, []⟩).1.map (fun a => (a.records, a.totalHits)) =
      .ok ([stampedIn "app" "b" 3 "info", stampedIn "app" "a" 1 "info",
        stampedIn "db" "d" 1 "info"], 4) ∧
    ((Comparator.byTimestamp true).sort ((inMemory newestOfEach).found askInfo
        (Leasing.start sameSeconds).sourcing.outside).flatten).take 2 =
      [stampedIn "app" "b" 3 "info", stampedIn "db" "e" 3 "warn"] := by
  have hreach : Leasing.Reachable ⟨(Leasing.start sameSeconds).sourcing, []⟩ :=
    ⟨sameSeconds, [], rfl⟩
  have hm : MergeOrder.named newestOfEach.mergeOrder = .ok (.timestamp true) := by decide
  have hstages : (Query.read askInfo.query).hasStages = true := by decide
  have hread : (Query.read askInfo.query).stages =
      [⟨"filter", ["level", "=", "info"], .empty⟩] := by decide +kernel
  have hfilter : Filter.build ⟨"filter", ["level", "=", "info"], .empty⟩ =
      .ok ⟨"level", "info", .comparison .equal⟩ := by decide +kernel
  obtain ⟨lines, hbuild⟩ : ∃ lines, Call.on (Stage.buildAll newestOfEach.timezone
      (Query.read askInfo.query).stages) [] =
        (.ok [.filter ⟨"level", "info", .comparison .equal⟩], lines) := by
    rw [hread]
    refine Stage.on_buildAll_of_built (.cons ?_ .nil) []
    rw [Stage.built_filter _ _ _ (by decide), hfilter]
    rfl
  obtain ⟨⟨before, hsearch⟩, hfirst⟩ :=
    outcome_of_pipeline (w := ⟨(Leasing.start sameSeconds).sourcing, []⟩) hreach (by decide) hm
      rfl (by decide) hstages hbuild
  have hcounted : cappedTotal 2 ((inMemory newestOfEach).found askInfo
      (Leasing.start sameSeconds).sourcing.outside) = 4 := by
    rw [found_askInfo]
    rfl
  have hnewest := hfirst (Comparator.byTimestamp true) rfl
  have hcap : Int.toNat 2 = 2 := rfl
  dsimp only at hsearch hnewest
  rw [hcap, delivered_askInfo, hcounted] at hsearch
  rw [hcap, delivered_askInfo] at hnewest
  refine ⟨?_, hnewest.symm⟩
  rw [hsearch]
  rfl

end SearchService

end PipeQuery
