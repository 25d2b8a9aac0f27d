import PipeQuery.Proofs.FacetCounts
import PipeQuery.Proofs.Pages

/-!
# The totals of a page

Besides its records, a page has the number of all hits and the counts of their
field values.  `totals_of_page` says that both are those of all matches of the
known sources: neither the place and size of the page nor its order nor the cap
on sorting appears in them.

What a reader adds is `collectForPage`, so the totals of a search are a fold
over the leased readers (`total_collected`, `facets_collected`).  A page sorted
by a field takes all records of its streams (`on_pageRecords_byField`) and
cannot fail; one in the order of the sources fails behind `countLimit`, and then
there are no totals either.
-/

namespace PipeQuery

namespace SearchService

/-- The fields whose values a search counts. -/
def facetFieldsOf (s : SearchService MemoryIndex MemoryReader) (r : SearchRequest) : List String :=
  if r.facetFields.isEmpty then s.settings.facetFields else r.facetFields

/-- The facets of all matches of a search, if it asks for facets. -/
def facetsFound (s : SearchService MemoryIndex MemoryReader) (r : SearchRequest)
    (index : MemoryIndex) : Facets :=
  if r.includeFacets then Facets.ofMatches (s.facetFieldsOf r) (s.found r index) else .empty

/-- The facets as a search shows them: by ranges if it has bounds for them. -/
def shownFacets (r : SearchRequest) (facets : Facets) : Facets :=
  if r.facetBuckets.isEmpty then facets else facets.bucketed r.facetBuckets

/-! ## What the readers add up to -/

section Totals

variable (settings : SearchSettings) (plan : PagePlan)

/-- A reader has no hits if and only if it has no matches. -/
theorem hits_eq_nil_iff (reader : MemoryReader) (filter : String) (range : Option TimeRange) :
    reader.hits filter range = [] ↔ matchesIn reader.source reader.records filter range = [] := by
  rw [← MemoryReader.map_shown_hits, List.map_eq_nil_iff]

theorem length_hits (reader : MemoryReader) (filter : String) (range : Option TimeRange) :
    (reader.hits filter range).length =
      (matchesIn reader.source reader.records filter range).length := by
  rw [← MemoryReader.map_shown_hits, List.length_map]

theorem total_collectForPage (readers : List MemoryReader)
    (g : Gathering MemoryIndex MemoryReader) :
    (readers.foldl (fun g r => collectForPage settings plan r g) g).total =
      g.total + ((readers.map fun r =>
        matchesIn r.source r.records plan.filter plan.range).flatten.length : Nat) := by
  induction readers generalizing g with
  | nil => simp
  | cons r rest ih =>
      rw [List.foldl_cons, ih, collectForPage, List.map_cons, List.flatten_cons,
        List.length_append, ← length_hits]
      by_cases hnone : r.hits plan.filter plan.range = []
      · rw [if_pos hnone, hnone, List.length_nil, Nat.zero_add]
      · rw [if_neg hnone, Int.natCast_add, ← Int.add_assoc]

theorem facets_collectForPage (hfacets : plan.includeFacets = true) (readers : List MemoryReader)
    (g : Gathering MemoryIndex MemoryReader) :
    (readers.foldl (fun g r => collectForPage settings plan r g) g).facets =
      (readers.map fun r => matchesIn r.source r.records plan.filter plan.range).foldl
        (fun facets records => if records = [] then facets
          else facets.merge (Facets.ofRecords plan.facetFields records)) g.facets := by
  induction readers generalizing g with
  | nil => rfl
  | cons r rest ih =>
      rw [List.foldl_cons, ih, collectForPage, List.map_cons, List.foldl_cons]
      congr 1
      by_cases hnone : r.hits plan.filter plan.range = []
      · rw [if_pos hnone, if_pos ((hits_eq_nil_iff r _ _).1 hnone)]
      · rw [if_neg hnone, if_neg (mt (hits_eq_nil_iff r _ _).2 hnone), ← r.facetCounts_eq]
        exact if_pos hfacets

/-- A search that asks for no facets counts nothing. -/
theorem facets_collectForPage_of_not (hfacets : plan.includeFacets = false)
    (readers : List MemoryReader) (g : Gathering MemoryIndex MemoryReader) :
    (readers.foldl (fun g r => collectForPage settings plan r g) g).facets = g.facets := by
  induction readers generalizing g with
  | nil => rfl
  | cons r rest ih =>
      rw [List.foldl_cons, ih, collectForPage]
      split
      · rfl
      · exact if_neg (by simp [hfacets])

/-- The number of hits of some readers. -/
theorem total_collected (readers : List MemoryReader) :
    (readers.foldl (fun g r => collectForPage settings plan r g) .empty).total =
      ((readers.map fun r =>
        matchesIn r.source r.records plan.filter plan.range).flatten.length : Nat) := by
  rw [total_collectForPage]
  exact Int.zero_add _

/-- The facets of some readers. -/
theorem facets_collected (readers : List MemoryReader) :
    (readers.foldl (fun g r => collectForPage settings plan r g) .empty).facets =
      if plan.includeFacets then Facets.ofMatches plan.facetFields
        (readers.map fun r => matchesIn r.source r.records plan.filter plan.range)
      else .empty := by
  cases hfacets : plan.includeFacets with
  | true => exact facets_collectForPage settings plan hfacets readers .empty
  | false => exact facets_collectForPage_of_not settings plan hfacets readers .empty

end Totals

/-! ## The records of the page -/

/-- A page sorted by a field takes all records of its streams and sorts them. -/
theorem on_pageRecords_byField {settings : SearchSettings} (hsize : 1 ≤ settings.batchSize)
    {plan : PagePlan} (page : Int) (ho : plan.order.key.isPushable = false)
    {readers : List MemoryReader} {w : World MemorySourcing}
    (hopen : ∀ r ∈ readers, w.state.outside.isClosed r = false) :
    Call.on (pageRecords (σ := MemoryIndex) (ρ := MemoryReader) plan page
        ((readers.filter fun r => r.hits plan.filter plan.range ≠ []).map
          fun r => memoryStream settings r (pageHits plan r))) w =
      (.ok (between (page * plan.pageSize) (page * plan.pageSize + plan.pageSize)
        ((Comparator.ofOrder plan.order).sort
          ((readers.filter fun r => r.hits plan.filter plan.range ≠ []).map
            (pageList plan)).flatten)), w) := by
  have hserve := serve_memoryStreams hsize
    (fun r hr => hopen r (List.mem_of_mem_filter hr) :
      ∀ r ∈ readers.filter fun r => r.hits plan.filter plan.range ≠ [], _)
    (pageHits plan) fun r _ h hh => mem_hits_of_mem_pageHits hh
  have hall := on_records_none
    (MultiStream.yields_in_sequence (s := .start _ none) hserve rfl rfl)
    (MultiStream.Serve.length_le_left (s := .start _ none) hserve)
  unfold pageRecords
  simp only [ho, Bool.false_eq_true, if_false]
  rw [Call.on_bind_ok hall]
  rfl

/-- A page has records unless the sources order their hits and it ends behind
`countLimit`.  What is said of it without looking at its records is said. -/
theorem outcome_pageRecords {α : Type} (a : α) {settings : SearchSettings}
    (hsize : 1 ≤ settings.batchSize) {plan : PagePlan} {page : Int} (hpage : 0 ≤ page)
    (hpageSize : 1 ≤ plan.pageSize)
    (hwindow : plan.order.key.isPushable = true → plan.window = (page + 1) * plan.pageSize)
    {readers : List MemoryReader} {w : World MemorySourcing}
    (hopen : ∀ r ∈ readers, w.state.outside.isClosed r = false) :
    (Call.on (pageRecords (σ := MemoryIndex) (ρ := MemoryReader) plan page
        ((readers.filter fun r => r.hits plan.filter plan.range ≠ []).map
          fun r => memoryStream settings r (pageHits plan r))) w).1.map (fun _ => a) =
      if plan.order.key.isPushable ∧ countLimit < (page + 1) * plan.pageSize then .error .windowEnd
      else .ok a := by
  cases ho : plan.order.key.isPushable with
  | true =>
      rw [on_pageRecords hsize ho hpage hpageSize (hwindow ho) hopen]
      simp only [true_and]
      split <;> rfl
  | false =>
      rw [on_pageRecords_byField hsize page ho hopen]
      simp [Except.map]

/-! ## The page -/

/-- A search without stages puts what comes of the sources into a response. -/
theorem outcome_search_of_noStages [Platform] (settings : SearchSettings) {r : SearchRequest}
    (hstages : (Query.read r.query).hasStages = false) {plan : PagePlan}
    (hplan : (inMemory settings).planPage r (Query.read r.query).base = plan)
    (w : World MemorySourcing) :
    (Call.on ((inMemory settings).search r) w).1 =
      (Call.on (withSources MemoryIndex.adapter ((inMemory settings).visitForPage plan)
        (fun g => do return (g, ← pageRecords plan r.page g.streams))
        ((inMemory settings).sourcesOf r) .empty) w).1.map
        fun p => pageResponse r plan.pageSize p.1 p.2 := by
  unfold search searchPage
  simp only [hstages, Bool.false_eq_true, if_false, hplan]
  exact Call.outcome_map _ (fun _ => rfl) w

/-- The whole of a search without stages: what becomes of the records of its page is put into a
response with the number of all matches.  If taking the records leaves the world as it is, the leases
end with a sound cache, and the sources hold what they held. -/
theorem run_searchPage [Platform] {settings : SearchSettings} (hbatch : 1 ≤ settings.batchSize)
    {r : SearchRequest} (hstages : (Query.read r.query).hasStages = false) {plan : PagePlan}
    (hplan : (inMemory settings).planPage r (Query.read r.query).base = plan)
    {w : World MemorySourcing} {leases : List LeaseId} (h : w.state.Sound leases) :
    ∃ (readers : List MemoryReader) (g : Gathering MemoryIndex MemoryReader)
      (v u : World MemorySourcing),
      (∀ reader ∈ readers, v.state.outside.isClosed reader = false) ∧
      readers.map (fun r => matchesIn r.source r.records plan.filter plan.range) =
        (inMemory settings).found r w.state.outside ∧
      g.total = (((inMemory settings).found r w.state.outside).flatten.length : Nat) ∧
      ∀ records, Call.on (pageRecords (σ := MemoryIndex) (ρ := MemoryReader) plan r.page
          ((readers.filter fun r => r.hits plan.filter plan.range ≠ []).map
            fun r => memoryStream settings r (pageHits plan r))) v = (records, v) →
        Call.on ((inMemory settings).search r) w =
          (records.map (pageResponse r plan.pageSize g), u) ∧
        u.state.Sound leases ∧ u.state.outside.contents = w.state.outside.contents := by
  obtain ⟨readers, v, u, outcome, hleased, hrun, hcome, hleft⟩ := run_withSources
    (fun g => do return (g, ← pageRecords plan r.page g.streams)) (on_visitForPage hbatch plan)
    ((inMemory settings).sourcesOf r) .empty w h
  have hfound : readers.map (fun r => matchesIn r.source r.records plan.filter plan.range) =
      (inMemory settings).found r w.state.outside := by
    rw [← hplan]
    exact hleased.matchLists _ _
  have htotal := total_collected settings plan readers
  rw [hfound] at htotal
  refine ⟨readers, _, v, u, hleased.isOpen, hfound, htotal, fun records hrecords => ?_⟩
  rw [← streams_collected] at hrecords
  generalize readers.foldl (fun g r => collectForPage settings plan r g) .empty = g at *
  have hfinish : Call.on (do return (g, ← pageRecords plan r.page g.streams)) v =
      (records.map fun found => (g, found), v) := by
    rw [Call.on_bind, hrecords]
    cases records <;> rfl
  rw [hfinish] at hcome hleft
  refine ⟨?_, hleft rfl⟩
  unfold search searchPage
  simp only [hstages, Bool.false_eq_true, if_false, hplan]
  rw [Call.on_bind, hrun, ← hcome]
  cases records <;> rfl

/-- **The totals of a page are those of all matches** of every known source
asked for, after any history of the cache: how many there are, and how often
each value of a field occurs among them.  Only a page in the order of the
sources that ends behind `countLimit` has none. -/
theorem totals_of_page [Platform] {settings : SearchSettings} {r : SearchRequest}
    {w : World MemorySourcing} {leases : List LeaseId} (hreach : Leasing.Reachable ⟨w.state, leases⟩)
    (hbatch : 1 ≤ settings.batchSize) (hstages : (Query.read r.query).hasStages = false)
    (hpage : 0 ≤ r.page) (hsize : 1 ≤ (inMemory settings).pageSizeOf r) :
    (Call.on ((inMemory settings).search r) w).1.map (fun a => (a.totalHits, a.facets)) =
      (if r.order.key.isPushable ∧ countLimit < (r.page + 1) * (inMemory settings).pageSizeOf r then
        .error .windowEnd
      else .ok ((((inMemory settings).found r w.state.outside).flatten.length : Int),
        shownFacets r ((inMemory settings).facetsFound r w.state.outside))) ∧
    Facets.Count ((inMemory settings).facetFieldsOf r)
      ((inMemory settings).found r w.state.outside).flatten
      (Facets.ofMatches ((inMemory settings).facetFieldsOf r)
        ((inMemory settings).found r w.state.outside)) := by
  refine ⟨?_, Facets.count_ofMatches _ _⟩
  generalize hplan : (inMemory settings).planPage r (Query.read r.query).base = plan
  obtain ⟨readers, v, hleased, hcome⟩ := outcome_withSources
    (fun g => do return (g, ← pageRecords plan r.page g.streams)) (on_visitForPage hbatch plan)
    ((inMemory settings).sourcesOf r) .empty w hreach.sound
  have hsearch := outcome_search_of_noStages settings hstages hplan w
  have hfinish : ∀ g : Gathering MemoryIndex MemoryReader,
      (Call.on (do return (g, ← pageRecords plan r.page g.streams)) v).1 =
      (Call.on (pageRecords plan r.page g.streams) v).1.map fun found => (g, found) :=
    fun g => Call.outcome_map _ (fun _ => rfl) v
  have hfound : readers.map (fun r => matchesIn r.source r.records plan.filter plan.range) =
      (inMemory settings).found r w.state.outside := by
    rw [← hplan]
    exact hleased.matchLists _ _
  have hstreams : _ = (readers.filter fun r => r.hits plan.filter plan.range ≠ []).map _ :=
    streams_collected settings readers
  have htotal : _ = ((readers.map _).flatten.length : Int) := total_collected settings plan readers
  have hfacets := facets_collected settings plan readers
  rw [hfound] at htotal hfacets
  generalize readers.foldl (fun g r => collectForPage settings plan r g) .empty = g at *
  have hpageSize : 1 ≤ plan.pageSize := by
    rw [← hplan]
    exact hsize
  have hwindow : plan.order.key.isPushable = true → plan.window = (r.page + 1) * plan.pageSize := by
    rw [← hplan]
    exact fun ho => if_pos ho
  have hrecords := outcome_pageRecords (g.total, shownFacets r g.facets) hbatch hpage hpageSize
    hwindow hleased.isOpen
  have hreworded : ∀ x : Except Fault (List Record),
      (((x.map fun found => (g, found)).map fun p => pageResponse r plan.pageSize p.1 p.2).map
        fun a => (a.totalHits, a.facets)) = x.map fun _ => (g.total, shownFacets r g.facets) := by
    intro x
    cases x <;> rfl
  rw [hsearch, hcome, hfinish, hstreams, hreworded, hrecords, htotal, hfacets, ← hplan]
  rfl

/-- Two sources whose records have levels. -/
def twoLevels : OrderedMap String SourceContent :=
  .ofList [
    ("app", ⟨[{ (default : Record) with fields := .ofList [("level", "info")] },
      { (default : Record) with fields := .ofList [("level", "warn")] }], 1⟩),
    ("db", ⟨[{ (default : Record) with fields := .ofList [("level", "info")] }], 1⟩)]

/-- A search for one record of two sources, of which one is named twice. -/
def askTwice (page : Int) (sortField : String) : SearchRequest :=
  { SearchRequest.ofQuery "" with
    sources := ["app", "db", "nowhere", "app"], page := page, pageSize := some 1
    sortField := sortField, facetFields := ["level"] }

/-- The records of a source that is named twice count twice, however far the
page.  In the order of the sources, a page behind `countLimit` has no totals. -/
theorem totals_of_twoLevels :
    (Call.on ((inMemory .standard).search (askTwice countLimit "level"))
        ⟨(Leasing.start twoLevels).sourcing, []⟩).1.map (fun a => (a.totalHits, a.facets)) =
      .ok (5, .ofList [("level", .ofList [("info", 3), ("warn", 2)])]) ∧
    (Call.on ((inMemory .standard).search (askTwice countLimit "timestamp"))
        ⟨(Leasing.start twoLevels).sourcing, []⟩).1.map (fun a => (a.totalHits, a.facets)) =
      .error .windowEnd := by
  have hreach : Leasing.Reachable ⟨(Leasing.start twoLevels).sourcing, []⟩ := ⟨twoLevels, [], rfl⟩
  have htotal : ((inMemory .standard).found (askTwice countLimit "level")
      (Leasing.start twoLevels).sourcing.outside).flatten.length = 5 := by decide +kernel
  have hfacets : shownFacets (askTwice countLimit "level")
      ((inMemory .standard).facetsFound (askTwice countLimit "level")
        (Leasing.start twoLevels).sourcing.outside) =
        .ofList [("level", .ofList [("info", 3), ("warn", 2)])] := by decide +kernel
  constructor
  · refine (totals_of_page (w := ⟨(Leasing.start twoLevels).sourcing, []⟩) hreach
      (by decide) (by decide) (by decide) (by decide)).1.trans ?_
    rw [if_neg (by decide), htotal, hfacets]
    rfl
  · exact (totals_of_page (w := ⟨(Leasing.start twoLevels).sourcing, []⟩) hreach
      (by decide) (by decide) (by decide) (by decide)).1.trans (if_pos (by decide))

end SearchService

end PipeQuery
