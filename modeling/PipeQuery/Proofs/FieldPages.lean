import PipeQuery.Proofs.PageTotals
import Mathlib.Data.String.Basic

/-!
# Pages sorted by a field

Sources cannot order their hits by a field.  A search for a page in such an
order takes the first matches of each source as they stand there, as many as
the cap on sorting lets it, puts them one after the other and sorts them
itself.

* `Comparator.sort_byField`: what it sorts by is the text of the field, with
  records without the field below all texts; so they come first in ascending
  order and last in descending order, and equal records keep their order in
  both.
* `records_of_page_byField`: the page is the part of that list that its number
  and size tell, and if no source has more matches than the cap, the pages are
  the consecutive parts of all matches in order.
-/

namespace PipeQuery

/-- The text of a field; a record without the field is below all texts. -/
def Record.fieldText (name : String) (r : Record) : WithBot String :=
  match r.get? name with
  | none => ⊥
  | some text => (text : WithBot String)

/-- Records in the order of the texts of a field.  Descending order is the
ascending order of the opposite, not the reverse of the list: equal records
keep their order. -/
def sortByField (name : String) (descending : Bool) (l : List Record) : List Record :=
  if descending then sortBy (fun r => OrderDual.toDual (r.fieldText name)) l
  else sortBy (Record.fieldText name) l

namespace Comparator

/-- The comparator of a field follows its texts. -/
theorem byField_eq_gt (name : String) (descending : Bool) (a b : Record) :
    byField name descending a b = .gt ↔
      if descending then a.fieldText name < b.fieldText name
      else b.fieldText name < a.fieldText name := by
  unfold byField Record.fieldText
  cases ha : a.get? name with
  | none =>
      cases hb : b.get? name with
      | none => cases descending <;> simp [turn]
      | some y => cases descending <;> simp [turn]
  | some x =>
      cases hb : b.get? name with
      | none => cases descending <;> simp [turn]
      | some y =>
          cases descending with
          | true => simp [turn, Ordering.swap_eq_gt, compare_lt_iff_lt]
          | false => simp [turn, compare_gt_iff_gt]

/-- Sorting with the comparator of a field is stable sorting by its texts. -/
theorem sort_byField (name : String) (descending : Bool) (l : List Record) :
    (byField name descending).sort l = sortByField name descending l := by
  cases descending with
  | true => exact sort_eq_sortBy fun a _ b _ => byField_eq_gt name true a b
  | false => exact sort_eq_sortBy fun a _ b _ => byField_eq_gt name false a b

end Comparator

namespace SearchService

/-! ## Parts of a list -/

/-- The items from the start of a page to its end are the page. -/
theorem between_page {α : Type} {page pageSize : Int} (hpage : 0 ≤ page) (hsize : 0 ≤ pageSize)
    (items : List α) :
    between (page * pageSize) (page * pageSize + pageSize) items = pageOf page pageSize items := by
  have hstart : 0 ≤ page * pageSize := Int.mul_nonneg hpage hsize
  rw [between, MemoryReader.takeTo_of_nonneg (by omega), placeOf, if_neg (by omega), List.drop_take,
    pageOf]
  rcases Nat.le_total (page * pageSize).toNat items.length with hle | hle
  · rw [Nat.min_eq_left hle]
    congr 1
    omega
  · rw [Nat.min_eq_right hle, List.drop_length, List.drop_eq_nil_of_le hle, List.take_nil,
      List.take_nil]

/-- The first `n` pages, one after the other, are the first items. -/
theorem flatten_pages {α : Type} {pageSize : Int} (hsize : 0 ≤ pageSize) (items : List α) (n : Nat) :
    ((List.range n).map fun (k : Nat) => pageOf k pageSize items).flatten =
      items.take (n * pageSize.toNat) := by
  induction n with
  | zero => simp
  | succ n ih =>
      have hstart : ((n : Int) * pageSize).toNat = n * pageSize.toNat := by
        rw [Int.toNat_mul (by omega) hsize, Int.toNat_natCast]
      rw [List.range_succ, List.map_append, List.flatten_append, ih, List.map_singleton,
        List.flatten_singleton, pageOf, hstart, ← List.take_add, Nat.succ_mul]

/-! ## The first matches of each source -/

section FirstMatches

variable {plan : PagePlan}

/-- A source that cannot order its hits gives its first matches. -/
theorem pageList_of_not (ho : plan.order.key.isPushable = false) (hwindow : 0 ≤ plan.window)
    (reader : MemoryReader) :
    pageList plan reader =
      (matchesIn reader.source reader.records plan.filter plan.range).take plan.window.toNat := by
  have hcount : (reader.hits plan.filter plan.range).length =
      (matchesIn reader.source reader.records plan.filter plan.range).length :=
    length_hits reader _ _
  rw [pageList, pageHits, ho, if_neg Bool.false_ne_true,
    MemoryReader.map_shown_search_none _ _ _ (by omega), hcount]
  generalize matchesIn _ _ _ _ = found
  rw [show (min plan.window (found.length : Int)).toNat =
    min plan.window.toNat found.length by omega]
  exact List.take_eq_take_min.symm

/-- What is sorted: the first matches of all readers, one after the other. -/
theorem flatten_pageLists (ho : plan.order.key.isPushable = false) (hwindow : 0 ≤ plan.window)
    (readers : List MemoryReader) :
    ((readers.filter fun r => r.hits plan.filter plan.range ≠ []).map (pageList plan)).flatten =
      ((readers.map fun r => matchesIn r.source r.records plan.filter plan.range).map
        fun found => found.take plan.window.toNat).flatten := by
  have hnone : ∀ r : MemoryReader, r.hits plan.filter plan.range = [] → pageList plan r = [] := by
    intro r hr
    rw [pageList_of_not ho hwindow, matchesIn_of_hits_eq_nil hr, List.take_nil]
  rw [flatten_filter_hits hnone, List.map_map]
  exact congrArg List.flatten (List.map_congr_left fun r _ => pageList_of_not ho hwindow r)

end FirstMatches

/-! ## The page -/

/-- The records on a page of a search. -/
def recordsOn [Platform] (s : SearchService MemoryIndex MemoryReader) (r : SearchRequest)
    (w : World MemorySourcing) (page : Int) : Except Fault (List Record) :=
  (Call.on (s.search { r with page := page }) w).1.map SearchResponse.records

/-- The first matches in each source, up to the cap on sorting. -/
def foundCapped (s : SearchService MemoryIndex MemoryReader) (r : SearchRequest)
    (index : MemoryIndex) : List (List Record) :=
  (s.found r index).map fun found => found.take s.settings.sortCap.toNat

/-- A cap that no source reaches cuts nothing off. -/
theorem foundCapped_of_uncut {settings : SearchSettings} {r : SearchRequest} {index : MemoryIndex}
    (huncut : ∀ found ∈ (inMemory settings).found r index,
      (found.length : Int) ≤ settings.sortCap) :
    (inMemory settings).foundCapped r index = (inMemory settings).found r index := by
  refine (List.map_congr_left fun found hfound => ?_).trans (List.map_id _)
  refine List.take_of_length_le ?_
  have hlength := huncut found hfound
  show found.length ≤ settings.sortCap.toNat
  omega

/-- The order of a search by a field. -/
theorem order_byField {r : SearchRequest}
    (hfield : r.sortField ≠ "" ∧ r.sortField ≠ scoreName ∧ r.sortField ≠ timestampName) :
    r.order = ⟨.field r.sortField, r.sortDescending⟩ := by
  obtain ⟨hempty, hscore, htimestamp⟩ := hfield
  rw [SearchRequest.order, if_neg (by simpa using hempty), SortKey.named,
    if_neg (by simpa using hscore), if_neg (by simpa using htimestamp)]

/-- A page sorted by a field, whatever the cap cuts off. -/
theorem recordsOn_byField [Platform] {settings : SearchSettings} {r : SearchRequest}
    {w : World MemorySourcing} {leases : List LeaseId}
    (hreach : Leasing.Reachable ⟨w.state, leases⟩) (hbatch : 1 ≤ settings.batchSize)
    (hcap : 0 ≤ settings.sortCap) (hstages : (Query.read r.query).hasStages = false)
    (hfield : r.sortField ≠ "" ∧ r.sortField ≠ scoreName ∧ r.sortField ≠ timestampName)
    (hsize : 1 ≤ (inMemory settings).pageSizeOf r) {page : Int} (hpage : 0 ≤ page) :
    recordsOn (inMemory settings) r w page =
      .ok (pageOf page ((inMemory settings).pageSizeOf r)
        (sortByField r.sortField r.sortDescending
          ((inMemory settings).foundCapped r w.state.outside).flatten)) := by
  generalize hplan : (inMemory settings).planPage { r with page := page }
    (Query.read r.query).base = plan
  have horder : plan.order = ⟨.field r.sortField, r.sortDescending⟩ := by
    rw [← hplan]
    exact order_byField hfield
  have ho : plan.order.key.isPushable = false := by
    rw [horder]
    rfl
  have hpageSize : plan.pageSize = (inMemory settings).pageSizeOf r := by
    rw [← hplan]
    rfl
  have hwindow : plan.window = settings.sortCap := by
    have ho' : (SearchRequest.order { r with page := page }).key.isPushable = false := by
      rw [← ho, ← hplan]
      rfl
    rw [← hplan]
    exact if_neg (by rw [ho']; exact Bool.false_ne_true)
  obtain ⟨readers, g, v, u, hopen, hfound, -, hsearch⟩ :=
    run_searchPage hbatch (r := { r with page := page }) hstages hplan hreach.sound
  have hrecords := on_pageRecords_byField hbatch page ho hopen
  rw [flatten_pageLists ho (by omega), hfound, horder, between_page hpage (by omega), hpageSize,
    hwindow] at hrecords
  rw [recordsOn, (hsearch _ hrecords).1]
  show Except.ok (pageOf page _ ((Comparator.byField _ _).sort _)) = _
  rw [Comparator.sort_byField]
  rfl

/-- **A page sorted by a field** is the part that its number and size tell of
the first matches of each known source asked for, one source after the other,
sorted by the texts of the field, after any history of the cache.  If no source
has more matches than the cap, **the pages are the consecutive parts** of all
matches in that order: each shows its part, and the first `n` of them together
show the first records, as many as fit on `n` pages. -/
theorem records_of_page_byField [Platform] {settings : SearchSettings} {r : SearchRequest}
    {w : World MemorySourcing} {leases : List LeaseId}
    (hreach : Leasing.Reachable ⟨w.state, leases⟩) (hbatch : 1 ≤ settings.batchSize)
    (hcap : 0 ≤ settings.sortCap) (hstages : (Query.read r.query).hasStages = false)
    (hfield : r.sortField ≠ "" ∧ r.sortField ≠ scoreName ∧ r.sortField ≠ timestampName)
    (hsize : 1 ≤ (inMemory settings).pageSizeOf r) :
    (∀ page : Int, 0 ≤ page →
      recordsOn (inMemory settings) r w page =
        .ok (pageOf page ((inMemory settings).pageSizeOf r)
          (sortByField r.sortField r.sortDescending
            ((inMemory settings).foundCapped r w.state.outside).flatten))) ∧
    ((∀ found ∈ (inMemory settings).found r w.state.outside,
        (found.length : Int) ≤ settings.sortCap) →
      (∀ page : Int, 0 ≤ page →
        recordsOn (inMemory settings) r w page =
          .ok (pageOf page ((inMemory settings).pageSizeOf r)
            (sortByField r.sortField r.sortDescending
              ((inMemory settings).found r w.state.outside).flatten))) ∧
      ∀ n : Nat,
        ((List.range n).mapM fun (k : Nat) => recordsOn (inMemory settings) r w k).map
            List.flatten =
          .ok ((sortByField r.sortField r.sortDescending
            ((inMemory settings).found r w.state.outside).flatten).take
              (n * ((inMemory settings).pageSizeOf r).toNat))) := by
  have hpages : ∀ page : Int, 0 ≤ page → recordsOn (inMemory settings) r w page = .ok _ :=
    fun page hpage => recordsOn_byField hreach hbatch hcap hstages hfield hsize hpage
  refine ⟨hpages, fun huncut => ?_⟩
  rw [foundCapped_of_uncut huncut] at hpages
  refine ⟨hpages, fun n => ?_⟩
  have heach : (fun (k : Nat) => recordsOn (inMemory settings) r w k) = fun (k : Nat) =>
      pure (pageOf k ((inMemory settings).pageSizeOf r)
        (sortByField r.sortField r.sortDescending
          ((inMemory settings).found r w.state.outside).flatten)) :=
    funext fun k => hpages k (by omega)
  rw [heach, List.mapM_pure, ← flatten_pages (by omega)]
  rfl

/-- A record with a level. -/
def leveled (raw level : String) : Record :=
  { (default : Record) with raw := raw, fields := .ofList [("level", level)] }

/-- A record without fields. -/
def unleveled (raw : String) : Record := { (default : Record) with raw := raw }

/-- Two sources whose records have levels, but for one. -/
def someLevels : OrderedMap String SourceContent :=
  .ofList [("app", ⟨[leveled "a" "info", unleveled "b"], 1⟩),
    ("db", ⟨[leveled "c" "warn", leveled "d" "info"], 1⟩)]

/-- A search for pages of three records by level, the last level first. -/
def askByLevel : SearchRequest :=
  { SearchRequest.ofQuery "" with
    sources := ["app", "nowhere", "db"], pageSize := some 3, sortField := "level" }

theorem found_someLevels :
    (inMemory .standard).found askByLevel (Leasing.start someLevels).sourcing.outside =
      [[(leveled "a" "info").withHit (.ofInt 1) "app", (unleveled "b").withHit (.ofInt 1) "app"],
        [(leveled "c" "warn").withHit (.ofInt 1) "db",
          (leveled "d" "info").withHit (.ofInt 1) "db"]] := by
  decide +kernel

/-- Equal levels stay in the order of the sources, and the record without a
level comes last. -/
theorem sorted_someLevels :
    sortByField askByLevel.sortField askByLevel.sortDescending
        ((inMemory .standard).found askByLevel
          (Leasing.start someLevels).sourcing.outside).flatten =
      [(leveled "c" "warn").withHit (.ofInt 1) "db", (leveled "a" "info").withHit (.ofInt 1) "app",
        (leveled "d" "info").withHit (.ofInt 1) "db",
        (unleveled "b").withHit (.ofInt 1) "app"] := by
  have hlevel : ∀ raw level source : String,
      Record.fieldText "level" ((leveled raw level).withHit (.ofInt 1) source) = (level : WithBot _) :=
    fun _ _ _ => rfl
  have hnone : Record.fieldText "level" ((unleveled "b").withHit (.ofInt 1) "app") = ⊥ := rfl
  rw [found_someLevels]
  show sortByField "level" true _ = _
  simp [sortByField, sortBy, List.mergeSort, List.MergeSort.Internal.splitInTwo, hlevel, hnone]

/-- The second page has what the first one left, and both together have all. -/
theorem pages_of_someLevels :
    recordsOn (inMemory .standard) askByLevel ⟨(Leasing.start someLevels).sourcing, []⟩ 1 =
      .ok [(unleveled "b").withHit (.ofInt 1) "app"] ∧
    ((List.range 2).mapM fun (k : Nat) =>
        recordsOn (inMemory .standard) askByLevel ⟨(Leasing.start someLevels).sourcing, []⟩ k).map
          List.flatten =
      .ok [(leveled "c" "warn").withHit (.ofInt 1) "db",
        (leveled "a" "info").withHit (.ofInt 1) "app",
        (leveled "d" "info").withHit (.ofInt 1) "db",
        (unleveled "b").withHit (.ofInt 1) "app"] := by
  have hreach : Leasing.Reachable ⟨(Leasing.start someLevels).sourcing, []⟩ := ⟨someLevels, [], rfl⟩
  have huncut : ∀ found ∈ (inMemory .standard).found askByLevel
      (Leasing.start someLevels).sourcing.outside,
      (found.length : Int) ≤ SearchSettings.standard.sortCap := by
    rw [found_someLevels]
    decide
  have hpages := (@records_of_page_byField _ .standard askByLevel
    ⟨(Leasing.start someLevels).sourcing, []⟩ _ hreach (by decide) (by decide) (by decide)
    (by decide) (by decide)).2 huncut
  dsimp only at hpages
  rw [sorted_someLevels] at hpages
  exact ⟨hpages.1 1 (by decide), hpages.2 2⟩

end SearchService

end PipeQuery
