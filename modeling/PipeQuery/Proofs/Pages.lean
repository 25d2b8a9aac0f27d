import PipeQuery.Platform.Standard
import PipeQuery.Proofs.Gathering

/-!
# Pages of a search

A search without stages asks each source for the first hits in its order, as
many as there are up to the end of the page, merges them and gives the page.
`records_of_page` says that nothing of this shows: the page is the part of the
sorted list of all matches that its number and size tell.

There is one exception: a page that ends behind `countLimit` is not counted to,
and the search fails, although there is nothing on it.
-/

namespace PipeQuery

namespace SearchService

section Collecting

variable (settings : SearchSettings) (plan : PagePlan)

/-- The hits that a reader gives to the page. -/
def pageHits (reader : MemoryReader) : List Hit :=
  reader.search plan.filter plan.range
    (some (min plan.window (reader.hits plan.filter plan.range).length))
    (if plan.order.key.isPushable then some plan.order else none)

/-- What a reader adds to the page. -/
def collectForPage (reader : MemoryReader) (g : Gathering MemoryIndex MemoryReader) :
    Gathering MemoryIndex MemoryReader :=
  if reader.hits plan.filter plan.range = [] then g
  else
    { total := g.total + (reader.hits plan.filter plan.range).length
      facets :=
        if plan.includeFacets then
          g.facets.merge (reader.facetCounts plan.filter plan.range plan.facetFields)
        else g.facets
      streams := g.streams ++ [memoryStream settings reader (pageHits plan reader)] }

theorem on_visitForPage {settings : SearchSettings} (hsize : 1 ≤ settings.batchSize)
    (plan : PagePlan) (reader : MemoryReader) (g : Gathering MemoryIndex MemoryReader)
    (w : World MemorySourcing) :
    Call.on (visitForPage (inMemory settings) plan reader.source reader g) w =
      (.ok (collectForPage settings plan reader g), w) := by
  have hcount : Call.on (ask reader.source
      (MemoryIndex.adapter.count reader plan.filter plan.range)) w =
        (.ok ((reader.hits plan.filter plan.range).length : Int), w) := on_ask_pure _ _ w
  have hfacets : Call.on (ask reader.source
      (MemoryIndex.adapter.facetCounts reader plan.filter plan.range plan.facetFields)) w =
        (.ok (reader.facetCounts plan.filter plan.range plan.facetFields), w) := on_ask_pure _ _ w
  have hsearch : Call.on (ask reader.source
      (MemoryIndex.adapter.search reader plan.filter plan.range
        (some (min plan.window (reader.hits plan.filter plan.range).length))
        (if plan.order.key.isPushable then some plan.order else none))) w =
        (.ok (pageHits plan reader), w) := on_ask_pure _ _ w
  have hstream := on_streamOf hsize reader (pageHits plan reader) w
  unfold visitForPage collectForPage
  rw [Call.on_bind_ok hcount]
  by_cases hnone : reader.hits plan.filter plan.range = []
  · rw [if_pos hnone, hnone]
    rfl
  · have hlength : ((reader.hits plan.filter plan.range).length : Int) ≠ 0 := by
      rw [ne_eq, Int.natCast_eq_zero, List.length_eq_zero_iff]
      exact hnone
    rw [if_neg hlength, if_neg hnone]
    cases plan.includeFacets with
    | true =>
        simp only [if_true]
        rw [Call.on_bind_ok hfacets, Call.on_bind_ok (Call.on_pure _ w),
          Call.on_bind_ok hsearch, Call.on_bind_ok hstream]
        rfl
    | false =>
        simp only [Bool.false_eq_true, if_false]
        rw [Call.on_bind_ok (Call.on_pure _ w), Call.on_bind_ok hsearch,
          Call.on_bind_ok hstream]
        rfl

end Collecting

/-! ## The first hits of each source -/

section FirstHits

variable {plan : PagePlan}

/-- The first records of a source in the order of the page. -/
def pageList (plan : PagePlan) (reader : MemoryReader) : List Record :=
  (pageHits plan reader).map reader.shown

theorem pageList_eq (ho : plan.order.key.isPushable = true) (hwindow : 0 ≤ plan.window)
    (reader : MemoryReader) :
    pageList plan reader =
      (sortBy plan.order.rank (matchesIn reader.source reader.records plan.filter plan.range)).take
        plan.window.toNat := by
  have hcount : (reader.hits plan.filter plan.range).length =
      (sortBy plan.order.rank
        (matchesIn reader.source reader.records plan.filter plan.range)).length := by
    rw [length_sortBy, ← MemoryReader.map_shown_hits, List.length_map]
  rw [pageList, pageHits, if_pos ho, MemoryReader.map_shown_search ho _ _ (by omega), hcount]
  generalize sortBy plan.order.rank _ = sorted
  rw [show (min plan.window (sorted.length : Int)).toNat =
    min plan.window.toNat sorted.length by omega]
  exact List.take_eq_take_min.symm

theorem mem_hits_of_mem_pageHits {reader : MemoryReader} {h : Hit} (hmem : h ∈ pageHits plan reader) :
    h ∈ reader.hits plan.filter plan.range := by
  refine MemoryReader.mem_search (fun o ho => ?_) hmem
  split at ho
  · next hpushable => rw [← Option.some.inj ho, hpushable]
  · cases ho

theorem streams_collectForPage (settings : SearchSettings) (readers : List MemoryReader)
    (g : Gathering MemoryIndex MemoryReader) :
    (readers.foldl (fun g r => collectForPage settings plan r g) g).streams =
      g.streams ++ (readers.filter fun r => r.hits plan.filter plan.range ≠ []).map
        fun r => memoryStream settings r (pageHits plan r) := by
  induction readers generalizing g with
  | nil => simp
  | cons r rest ih =>
      rw [List.foldl_cons, ih, collectForPage]
      by_cases hnone : r.hits plan.filter plan.range = []
      · rw [if_pos hnone, List.filter_cons_of_neg (by simpa using hnone)]
      · rw [if_neg hnone, List.filter_cons_of_pos (by simpa using hnone), List.map_cons,
          List.append_assoc, List.singleton_append]

/-- The streams that come of some readers. -/
theorem streams_collected (settings : SearchSettings) (readers : List MemoryReader) :
    (readers.foldl (fun g r => collectForPage settings plan r g) .empty).streams =
      (readers.filter fun r => r.hits plan.filter plan.range ≠ []).map
        fun r => memoryStream settings r (pageHits plan r) :=
  streams_collectForPage settings readers .empty

/-- Readers without hits have nothing to give. -/
theorem flatten_filter_hits {filter : String} {range : Option TimeRange}
    {given : MemoryReader → List Record} (hgiven : ∀ r, r.hits filter range = [] → given r = [])
    (readers : List MemoryReader) :
    ((readers.filter fun r => r.hits filter range ≠ []).map given).flatten =
      (readers.map given).flatten := by
  induction readers with
  | nil => rfl
  | cons r rest ih =>
      by_cases hnone : r.hits filter range = []
      · rw [List.filter_cons_of_neg (by simpa using hnone), ih, List.map_cons, hgiven r hnone]
        rfl
      · rw [List.filter_cons_of_pos (by simpa using hnone), List.map_cons, List.map_cons,
          List.flatten_cons, List.flatten_cons, ih]

/-- A reader without hits has no matches. -/
theorem matchesIn_of_hits_eq_nil {reader : MemoryReader} {filter : String}
    {range : Option TimeRange} (hnone : reader.hits filter range = []) :
    matchesIn reader.source reader.records filter range = [] := by
  rw [← MemoryReader.map_shown_hits, hnone]
  rfl

/-- **Up to the end of its window, the merge of the first hits is the sorted
list of all matches.** -/
theorem take_merged (ho : plan.order.key.isPushable = true) (hwindow : 0 ≤ plan.window)
    (readers : List MemoryReader) :
    (sortBy plan.order.rank
        ((readers.filter fun r => r.hits plan.filter plan.range ≠ []).map
          (pageList plan)).flatten).take plan.window.toNat =
      (sortBy plan.order.rank
        (readers.map fun r =>
          matchesIn r.source r.records plan.filter plan.range).flatten).take
        plan.window.toNat := by
  have hlists : (readers.filter fun r => r.hits plan.filter plan.range ≠ []).map (pageList plan) =
      ((readers.filter fun r => r.hits plan.filter plan.range ≠ []).map
        fun r => matchesIn r.source r.records plan.filter plan.range).map
        fun l => (sortBy plan.order.rank l).take plan.window.toNat := by
    rw [List.map_map]
    exact List.map_congr_left fun r _ => pageList_eq ho hwindow r
  rw [hlists, take_sortBy_flatten_take, flatten_filter_hits fun _ => matchesIn_of_hits_eq_nil]

/-- The merged streams of the page give its first hits in order. -/
theorem yields_page {settings : SearchSettings} (hsize : 1 ≤ settings.batchSize)
    (ho : plan.order.key.isPushable = true) (hwindow : 0 ≤ plan.window)
    {readers : List MemoryReader} {s : MemorySourcing}
    (hopen : ∀ r ∈ readers, s.outside.isClosed r = false) :
    MultiStream.Yields s
      (sortBy plan.order.rank (readers.map (pageList plan)).flatten)
      (.start (readers.map fun r => memoryStream settings r (pageHits plan r))
        (some (Comparator.ofOrder plan.order))) := by
  have hserve : MultiStream.Serve
      (readers.map fun r => memoryStream settings r (pageHits plan r)) s
      (readers.map (pageList plan)) :=
    serve_memoryStreams hsize hopen (pageHits plan) fun r _ h hh => mem_hits_of_mem_pageHits hh
  have hnumbers : Comparator.ScoresAreNumbers (readers.map (pageList plan)).flatten := by
    refine Comparator.scoresAreNumbers_flatten fun l hl => ?_
    obtain ⟨r, _, rfl⟩ := List.mem_map.1 hl
    refine (scoresAreNumbers_matchesIn r.source r.records plan.filter plan.range).mono ?_
    intro a ha
    rw [pageList_eq ho hwindow] at ha
    exact (mem_sortBy _).1 (List.mem_of_mem_take ha)
  refine MultiStream.yields_merged (s := .start _ _) hserve rfl rfl
    (Comparator.ofOrder_rankedBy ho hnumbers) ?_
  intro l hl
  obtain ⟨r, _, rfl⟩ := List.mem_map.1 hl
  rw [pageList_eq ho hwindow]
  exact ascendingBy_take_sortBy _ _ _

end FirstHits

/-! ## The page -/

/-- The part of a list that a page shows. -/
def pageOf {α : Type} (page pageSize : Int) (items : List α) : List α :=
  (items.drop (page * pageSize).toNat).take pageSize.toNat

theorem pageStop_eq (page pageSize : Int) :
    (page + 1) * pageSize = page * pageSize + pageSize := by
  rw [Int.add_mul, Int.one_mul]

/-- The window of a page, if it can be counted to. -/
theorem windowOf_page {page pageSize : Int} (hpage : 0 ≤ page) (hsize : 1 ≤ pageSize) :
    windowOf (page * pageSize) (page * pageSize + pageSize) =
      if countLimit < (page + 1) * pageSize then .error .windowEnd
      else .ok ((page * pageSize).toNat, ((page + 1) * pageSize).toNat) := by
  have hstart : 0 ≤ page * pageSize := Int.mul_nonneg hpage (by omega)
  have hstop := pageStop_eq page pageSize
  have hlimit : (0 : Int) ≤ countLimit := by decide
  rw [hstop, windowOf]
  by_cases hbehind : countLimit < page * pageSize + pageSize
  · rw [if_pos (Or.inr (Or.inl hbehind)), if_pos hbehind]
  · rw [if_neg (by omega), if_neg (by omega), if_neg hbehind]

/-- What a search makes of the readers: the page of all that was found. -/
theorem on_pageRecords {settings : SearchSettings} (hsize : 1 ≤ settings.batchSize)
    {plan : PagePlan} {page : Int} (ho : plan.order.key.isPushable = true) (hpage : 0 ≤ page)
    (hpageSize : 1 ≤ plan.pageSize) (hwindow : plan.window = (page + 1) * plan.pageSize)
    {readers : List MemoryReader} {w : World MemorySourcing}
    (hopen : ∀ r ∈ readers, w.state.outside.isClosed r = false) :
    Call.on (pageRecords (σ := MemoryIndex) (ρ := MemoryReader) plan page
        ((readers.filter fun r => r.hits plan.filter plan.range ≠ []).map
          fun r => memoryStream settings r (pageHits plan r))) w =
      (if countLimit < (page + 1) * plan.pageSize then .error .windowEnd
        else .ok (pageOf page plan.pageSize (sortBy plan.order.rank
          (readers.map fun r =>
            matchesIn r.source r.records plan.filter plan.range).flatten)), w) := by
  unfold pageRecords
  simp only [ho, if_true, windowOf_page hpage hpageSize]
  by_cases hbehind : countLimit < (page + 1) * plan.pageSize
  · rw [if_pos hbehind, if_pos hbehind]
    exact Call.on_bind_error (Run.on_ofExcept _ w)
  · rw [if_neg hbehind, if_neg hbehind]
    have hstart : 0 ≤ page * plan.pageSize := Int.mul_nonneg hpage (by omega)
    have hstop := pageStop_eq page plan.pageSize
    have hyields := yields_page hsize ho (by omega)
      (fun r hr => hopen r (List.mem_of_mem_filter hr) :
        ∀ r ∈ readers.filter fun r => r.hits plan.filter plan.range ≠ [], _)
    have htaken := on_records_some hyields ((page + 1) * plan.pageSize).toNat
    rw [← hwindow, take_merged ho (by omega)] at htaken
    rw [Call.on_bind_ok (Run.on_ofExcept _ w)]
    simp only [← hwindow]
    rw [Call.on_bind_ok htaken, Call.on_pure, List.drop_take, pageOf, hwindow, hstop]
    congr 3
    omega

/-- What a search without stages answers. -/
def pageResponse (r : SearchRequest) (pageSize : Int) (g : Gathering MemoryIndex MemoryReader)
    (records : List Record) : SearchResponse where
  records := records
  totalHits := g.total
  filteredHits := g.total
  page := r.page
  pageSize := pageSize
  facets := if r.facetBuckets.isEmpty then g.facets else g.facets.bucketed r.facetBuckets
  piped := none
  phases := [.retrieval]

/-- **A page is the part of the sorted list of all matches** that its number and
size tell, after any history of the cache: of every known source asked for, in
that order, whatever is cut off each and however the merge goes.  Only a page
that ends behind `countLimit` fails. -/
theorem records_of_page [Platform] {settings : SearchSettings} {r : SearchRequest}
    {w : World MemorySourcing} {leases : List LeaseId}
    (hreach : Leasing.Reachable ⟨w.state, leases⟩) (hbatch : 1 ≤ settings.batchSize)
    (hstages : (Query.read r.query).hasStages = false) (ho : r.order.key.isPushable = true)
    (hpage : 0 ≤ r.page) (hsize : 1 ≤ (inMemory settings).pageSizeOf r) :
    (Call.on ((inMemory settings).search r) w).1.map SearchResponse.records =
      if countLimit < (r.page + 1) * (inMemory settings).pageSizeOf r then .error .windowEnd
      else .ok (pageOf r.page ((inMemory settings).pageSizeOf r)
        ((Comparator.ofOrder r.order).sort
          ((inMemory settings).found r w.state.outside).flatten)) := by
  generalize hplan : (inMemory settings).planPage r (Query.read r.query).base = plan
  have hwindow : plan.window = (r.page + 1) * plan.pageSize := by
    rw [← hplan]
    exact if_pos ho
  have hpushable : plan.order.key.isPushable = true := by
    rw [← hplan]
    exact ho
  have hpageSize : 1 ≤ plan.pageSize := by
    rw [← hplan]
    exact hsize
  obtain ⟨readers, v, hleased, hcome⟩ := outcome_withSources
    (fun g => do return (g, ← pageRecords plan r.page g.streams)) (on_visitForPage hbatch plan)
    ((inMemory settings).sourcesOf r) .empty w hreach.sound
  -- the search is what comes of the leased readers, put into a response
  have hsearch : (Call.on ((inMemory settings).search r) w).1 =
      (Call.on (withSources MemoryIndex.adapter ((inMemory settings).visitForPage plan)
        (fun g => do return (g, ← pageRecords plan r.page g.streams))
        ((inMemory settings).sourcesOf r) .empty) w).1.map
        fun p => pageResponse r plan.pageSize p.1 p.2 := by
    unfold search searchPage
    simp only [hstages, Bool.false_eq_true, if_false, hplan]
    exact Call.outcome_map _ (fun _ => rfl) w
  have hfinish : ∀ g : Gathering MemoryIndex MemoryReader,
      (Call.on (do return (g, ← pageRecords plan r.page g.streams)) v).1 =
      (Call.on (pageRecords plan r.page g.streams) v).1.map fun found => (g, found) :=
    fun g => Call.outcome_map _ (fun _ => rfl) v
  have hrecords := on_pageRecords hbatch hpushable hpage hpageSize hwindow hleased.isOpen
  rw [← streams_collected, hleased.matchLists] at hrecords
  rw [hsearch, hcome, hfinish, hrecords, Comparator.sort_eq_sortBy
    (Comparator.ofOrder_rankedBy ho (Comparator.scoresAreNumbers_flatten
      (scoresAreNumbers_found (inMemory settings) r w.state.outside))), ← hplan]
  show Except.map _ (Except.map _ (Except.map _ (if countLimit < (r.page + 1) *
    (inMemory settings).pageSizeOf r then _ else _))) = _
  split
  · rfl
  · rfl

/-- A search for pages of two records, the oldest first. -/
def askOldest (page : Int) : SearchRequest :=
  { SearchRequest.ofQuery "" with
    sources := ["app", "db"], page := page, pageSize := some 2, sortField := "timestamp"
    sortDescending := false }

open MemoryIndex in
theorem found_askOldest (page : Int) :
    (inMemory .standard).found (askOldest page) (Leasing.start sameSeconds).sourcing.outside =
      [[stampedIn "app" "a" 1 "info", stampedIn "app" "b" 3 "info", stampedIn "app" "c" 1 "info"],
        [stampedIn "db" "d" 1 "info", stampedIn "db" "e" 3 "warn"]] := by
  have hfirst : (inMemory .standard).found (askOldest 0)
      (Leasing.start sameSeconds).sourcing.outside =
      [[stampedIn "app" "a" 1 "info", stampedIn "app" "b" 3 "info", stampedIn "app" "c" 1 "info"],
        [stampedIn "db" "d" 1 "info", stampedIn "db" "e" 3 "warn"]] := by decide +kernel
  exact hfirst

open MemoryIndex in
/-- Records of one second stay in the order of their sources. -/
theorem sorted_askOldest (page : Int) :
    (Comparator.ofOrder (askOldest page).order).sort ((inMemory .standard).found (askOldest page)
        (Leasing.start sameSeconds).sourcing.outside).flatten =
      [stampedIn "app" "a" 1 "info", stampedIn "app" "c" 1 "info", stampedIn "db" "d" 1 "info",
        stampedIn "app" "b" 3 "info", stampedIn "db" "e" 3 "warn"] := by
  rw [found_askOldest]
  show Comparator.sort (Comparator.byTimestamp false) _ = _
  simp [Comparator.sort, List.mergeSort, List.MergeSort.Internal.splitInTwo,
    byTimestamp_stampedIn, Comparator.turn, compare, compareOfLessAndEq]

open MemoryIndex in
/-- The first page has two of the three oldest records, of one source, and the
second page goes on with the other source.  The last page that can be counted to
is empty, and the next one fails. -/
theorem page_behind_countLimit :
    (Call.on ((inMemory .standard).search (askOldest 0))
        ⟨(Leasing.start sameSeconds).sourcing, []⟩).1.map SearchResponse.records =
      .ok [stampedIn "app" "a" 1 "info", stampedIn "app" "c" 1 "info"] ∧
    (Call.on ((inMemory .standard).search (askOldest 1))
        ⟨(Leasing.start sameSeconds).sourcing, []⟩).1.map SearchResponse.records =
      .ok [stampedIn "db" "d" 1 "info", stampedIn "app" "b" 3 "info"] ∧
    (Call.on ((inMemory .standard).search (askOldest (countLimit / 2 - 1)))
        ⟨(Leasing.start sameSeconds).sourcing, []⟩).1.map SearchResponse.records = .ok [] ∧
    (Call.on ((inMemory .standard).search (askOldest (countLimit / 2)))
        ⟨(Leasing.start sameSeconds).sourcing, []⟩).1.map SearchResponse.records =
      .error .windowEnd := by
  have hreach : Leasing.Reachable ⟨(Leasing.start sameSeconds).sourcing, []⟩ :=
    ⟨sameSeconds, [], rfl⟩
  have hstages : (Query.read "").hasStages = false := by decide
  have hkey : (askOldest 0).order.key.isPushable = true := by decide
  have hpage := fun page hpage => @records_of_page .standard .standard (askOldest page)
    ⟨(Leasing.start sameSeconds).sourcing, []⟩ [] hreach (by decide) hstages hkey hpage
    (by decide : (1 : Int) ≤ 2)
  simp only [sorted_askOldest] at hpage
  refine ⟨?_, ?_, ?_, ?_⟩
  · exact hpage 0 (by decide)
  · exact hpage 1 (by decide)
  · exact hpage (countLimit / 2 - 1) (by decide)
  · exact hpage (countLimit / 2) (by decide)

end SearchService

end PipeQuery
