import PipeQuery.Proofs.FieldPages
import PipeQuery.Proofs.MillisKept
import Mathlib.Order.Bounds.Basic

/-!
# Counting pages

The number of pages is the ceiling of a quotient that was rounded to 53 bits.
Rounding crosses no whole number on its way, so fewer than 2⁵³ hits are counted
in pages exactly (`exists_isLeast_pages`).

* `roundToSignificand_le_whole_iff`: a rounded quotient is at most a whole
  number if and only if the quotient is.  What lies above it does so by more
  than half a step of the format.
* `run_search`: a search for a page leaves the cache sound and the sources as
  they were, so another page can be asked for (`run_recordsOfPages`).
* `pages_of_search`: the pages that are counted, asked for one after the other,
  have every match once and in order.  The last of them is not empty unless
  there are no matches, and the one behind it is; but no page answers that ends
  behind `countLimit`, even the only one.
-/

namespace PipeQuery

/-! ## Rounded quotients -/

/-- **Rounding a quotient crosses no whole number** but zero, which quotients by great divisors are
rounded to. -/
theorem roundToSignificand_le_whole_iff {num den whole : Nat} (hnum : num < 2 ^ 53)
    (hden : 0 < den) (hwhole : 0 < whole) :
    roundToSignificand (num * unitsPerOne) den ≤ whole * unitsPerOne ↔ num ≤ whole * den := by
  constructor
  · intro hround
    by_contra hlt
    obtain ⟨-, hnear⟩ := roundToSignificand_near (num * unitsPerOne) hden
    have hbelow := Nat.mul_le_mul_right den hround
    have habove : (whole * den + 1) * unitsPerOne ≤ num * unitsPerOne :=
      Nat.mul_le_mul_right _ (by omega)
    -- what lies above the whole number is more than half a step away from it
    have hstep : 2 * unitsPerOne ≤ den * 2 ^ excessBits (num * unitsPerOne / den) := by
      rw [Nat.succ_mul] at habove
      rw [Nat.mul_right_comm] at hbelow
      omega
    have hdivisor : den ≤ whole * den := Nat.le_mul_of_pos_left den hwhole
    rcases Nat.eq_zero_or_pos (excessBits (num * unitsPerOne / den)) with hzero | hpos
    · obtain ⟨bits, hbits, hone⟩ := exists_unitsPerOne_eq
      have hgreat : 2 ^ 53 ≤ unitsPerOne := by
        rw [hone]
        exact Nat.pow_le_pow_right (by decide) (by omega)
      rw [hzero, Nat.pow_zero, Nat.mul_one] at hstep
      omega
    · have hsteps := steps_le hpos
      have hhigh : 2 ^ 53 * unitsPerOne ≤ num * unitsPerOne := by
        calc 2 ^ 53 * unitsPerOne = 2 ^ 52 * (2 * unitsPerOne) := by omega
          _ ≤ _ := Nat.mul_le_mul_left _ hstep
          _ ≤ num * unitsPerOne := hsteps
      exact absurd (Nat.le_of_mul_le_mul_right hhigh unitsPerOne_pos) (Nat.not_le.2 hnum)
  · intro hle
    have hleast : num ≤ min whole (2 ^ 53) * den := by
      rcases Nat.le_total whole (2 ^ 53) with hsmall | hgreat
      · rwa [Nat.min_eq_left hsmall]
      · rw [Nat.min_eq_right hgreat]
        exact hnum.le.trans (Nat.le_mul_of_pos_right _ hden)
    calc roundToSignificand (num * unitsPerOne) den
        ≤ roundToSignificand (min whole (2 ^ 53) * unitsPerOne) 1 := by
          refine roundToSignificand_mono hden Nat.one_pos ?_
          rw [Nat.mul_one, Nat.mul_right_comm]
          exact Nat.mul_le_mul_right _ hleast
      _ = min whole (2 ^ 53) * unitsPerOne :=
          roundToSignificand_of_fits (fits_whole (Nat.min_le_right _ _))
      _ ≤ whole * unitsPerOne := Nat.mul_le_mul_right _ (Nat.min_le_left _ _)

/-- The least whole number that is not below a number. -/
theorem Binary64.ceiling?_finite {units : Nat} {fits : FitsSignificand units}
    {bounded : units < overflowUnits} :
    (finite false units fits bounded).ceiling? =
      some (((units + unitsPerOne - 1) / unitsPerOne : Nat) : Int) := rfl

/-! ## The number of pages -/

namespace SearchResponse

variable {hits size : Int}

theorem pagesOf_pos (hits size : Int) : 1 ≤ pagesOf hits size := by
  unfold pagesOf
  split <;> omega

/-- **So many pages are enough if and only if they hold all hits**, for any number of pages. -/
theorem pagesOf_le_iff (hhits : 0 ≤ hits) (hexact : hits < 2 ^ 53) (hsize : 1 ≤ size) {pages : Int}
    (hpages : 1 ≤ pages) : pagesOf hits size ≤ pages ↔ hits ≤ pages * size := by
  obtain ⟨num, rfl⟩ := Int.eq_ofNat_of_zero_le hhits
  obtain ⟨den, rfl⟩ := Int.eq_ofNat_of_zero_le (show 0 ≤ size by omega)
  obtain ⟨whole, rfl⟩ := Int.eq_ofNat_of_zero_le (show 0 ≤ pages by omega)
  have hden : 0 < den := by omega
  have hwhole : 0 < whole := by omega
  have hnum : num < 2 ^ 53 := by omega
  obtain ⟨_, _, hratio⟩ := Binary64.exists_ofFraction hden hnum.le
    (Nat.le_mul_of_pos_right (num * unitsPerOne) hden) false
  have hquotient : Binary64.ofRatio (num : Int) den =
      Binary64.ofFraction false (num * unitsPerOne) den := by
    rw [Binary64.ofRatio, Int.natAbs_natCast, decide_eq_false (by omega)]
  rw [pagesOf, if_neg (by omega), Int.toNat_natCast, hquotient, hratio, Binary64.ceiling?_finite,
    Option.getD_some]
  have hceiling : (roundToSignificand (num * unitsPerOne) den + unitsPerOne - 1) / unitsPerOne ≤
      whole ↔ roundToSignificand (num * unitsPerOne) den ≤ whole * unitsPerOne := by
    have hone := unitsPerOne_pos
    rw [← Nat.lt_succ_iff, Nat.div_lt_iff_lt_mul hone, Nat.succ_mul]
    omega
  rw [roundToSignificand_le_whole_iff hnum hden hwhole] at hceiling
  rw [← Int.natCast_mul, Int.ofNat_le, ← hceiling, Int.max_le]
  omega

/-- The pages hold all hits. -/
theorem le_pagesOf_mul (hhits : 0 ≤ hits) (hexact : hits < 2 ^ 53) (hsize : 1 ≤ size) :
    hits ≤ pagesOf hits size * size :=
  (pagesOf_le_iff hhits hexact hsize (pagesOf_pos hits size)).1 (Int.le_refl _)

/-- If there are hits, one page less does not hold them. -/
theorem mul_lt_of_lt_pagesOf (hhits : 0 < hits) (hexact : hits < 2 ^ 53) (hsize : 1 ≤ size)
    {pages : Int} (hpages : pages < pagesOf hits size) : pages * size < hits := by
  rcases lt_or_ge pages 1 with hnone | hsome
  · have hzero : pages * size ≤ 0 := Int.mul_nonpos_of_nonpos_of_nonneg (by omega) (by omega)
    omega
  · by_contra hle
    exact absurd ((pagesOf_le_iff hhits.le hexact hsize hsome).2 (Int.not_lt.1 hle))
      (Int.not_le.2 hpages)

/-- **The number of pages is exact.** -/
theorem exists_isLeast_pages (hhits : 0 ≤ hits) (hexact : hits < 2 ^ 53) (hsize : 1 ≤ size) :
    ∃ least, IsLeast {pages : Int | hits ≤ pages * size} least ∧
      pagesOf hits size = max 1 least := by
  rcases eq_or_lt_of_le hhits with hnone | hsome
  · subst hnone
    have hone : pagesOf 0 size ≤ 1 :=
      (pagesOf_le_iff (Int.le_refl 0) hexact hsize (Int.le_refl 1)).2 (by omega)
    refine ⟨0, ⟨by simp, fun pages hpages => ?_⟩, Int.le_antisymm hone (pagesOf_pos 0 size)⟩
    exact Int.nonneg_of_mul_nonneg_left hpages (by omega)
  · refine ⟨_, ⟨le_pagesOf_mul hhits hexact hsize, fun pages hpages => ?_⟩,
      (Int.max_eq_right (pagesOf_pos hits size)).symm⟩
    by_contra hless
    exact absurd (mul_lt_of_lt_pagesOf hsome hexact hsize (Int.not_le.1 hless))
      (Int.not_lt.2 hpages)

end SearchResponse

namespace SearchService

/-! ## A search and what it leaves -/

section Searches

variable {settings : SearchSettings} {r : SearchRequest} {w : World MemorySourcing}
  {leases : List LeaseId}

/-- What is found depends on what the sources hold. -/
theorem found_congr (s : SearchService MemoryIndex MemoryReader) (r : SearchRequest)
    {index index' : MemoryIndex} (h : index.contents = index'.contents) :
    s.found r index = s.found r index' := by
  rw [found, found, MemoryIndex.matchLists, MemoryIndex.matchLists, MemoryIndex.known_congr h]

/-- All matches of a search, in its order. -/
def foundInOrder (s : SearchService MemoryIndex MemoryReader) (r : SearchRequest)
    (index : MemoryIndex) : List Record :=
  (Comparator.ofOrder r.order).sort (s.found r index).flatten

theorem perm_foundInOrder (s : SearchService MemoryIndex MemoryReader) (r : SearchRequest)
    (index : MemoryIndex) : (s.foundInOrder r index).Perm (s.found r index).flatten :=
  List.mergeSort_perm _ _

/-- The order of a search is a stable sort by its rank. -/
theorem foundInOrder_eq (ho : r.order.key.isPushable = true) (index : MemoryIndex) :
    (inMemory settings).foundInOrder r index =
      sortBy r.order.rank ((inMemory settings).found r index).flatten :=
  Comparator.sort_eq_sortBy (Comparator.ofOrder_rankedBy ho
    (Comparator.scoresAreNumbers_flatten (scoresAreNumbers_found (inMemory settings) r index)))

/-- The number of pages of all matches of a search. -/
def pagesFound (s : SearchService MemoryIndex MemoryReader) (r : SearchRequest)
    (index : MemoryIndex) : Int :=
  SearchResponse.pagesOf (s.found r index).flatten.length (s.pageSizeOf r)

/-- A page is empty if and only if no item is left for it. -/
theorem pageOf_eq_nil_iff {α : Type} {page pageSize : Int} (hpage : 0 ≤ page)
    (hsize : 1 ≤ pageSize) {items : List α} :
    pageOf page pageSize items = [] ↔ (items.length : Int) ≤ page * pageSize := by
  have hstart : 0 ≤ page * pageSize := Int.mul_nonneg hpage (by omega)
  rw [pageOf, List.take_eq_nil_iff, List.drop_eq_nil_iff]
  omega

variable [Platform]

/-- **A search for a page** answers with the page of all matches in order, or fails because the page
ends behind `countLimit`; the cache stays sound and the sources hold what they held. -/
theorem run_search (hbatch : 1 ≤ settings.batchSize)
    (hstages : (Query.read r.query).hasStages = false) (ho : r.order.key.isPushable = true)
    (hsize : 1 ≤ (inMemory settings).pageSizeOf r) {page : Int} (hpage : 0 ≤ page)
    (h : w.state.Sound leases) :
    ∃ (answer : SearchResponse) (u : World MemorySourcing),
      Call.on ((inMemory settings).search { r with page := page }) w =
        (if countLimit < (page + 1) * (inMemory settings).pageSizeOf r then .error .windowEnd
          else .ok answer, u) ∧
      answer.records = pageOf page ((inMemory settings).pageSizeOf r)
        ((inMemory settings).foundInOrder r w.state.outside) ∧
      answer.totalPages = (inMemory settings).pagesFound r w.state.outside ∧
      u.state.Sound leases ∧ u.state.outside.contents = w.state.outside.contents := by
  generalize hplan : (inMemory settings).planPage { r with page := page }
    (Query.read r.query).base = plan
  have horder : plan.order = r.order := by
    rw [← hplan]
    rfl
  have hplanSize : plan.pageSize = (inMemory settings).pageSizeOf r := by
    rw [← hplan]
    rfl
  have hwindow : plan.window = (page + 1) * plan.pageSize := by
    rw [← hplan]
    exact if_pos ho
  obtain ⟨readers, g, v, u, hopen, hfound, htotal, hsearch⟩ :=
    run_searchPage hbatch (r := { r with page := page }) hstages hplan h
  have hrecords := on_pageRecords hbatch (horder ▸ ho) hpage (hplanSize ▸ hsize) hwindow hopen
  have hsame : (inMemory settings).found { r with page := page } w.state.outside =
      (inMemory settings).found r w.state.outside := rfl
  rw [hfound, hsame, horder, ← foundInOrder_eq ho, hplanSize] at hrecords
  obtain ⟨hanswer, hsound, hcontents⟩ := hsearch _ hrecords
  refine ⟨pageResponse { r with page := page } plan.pageSize g (pageOf page
    ((inMemory settings).pageSizeOf r) ((inMemory settings).foundInOrder r w.state.outside)),
    u, ?_, rfl, ?_, hsound, hcontents⟩
  · rw [hanswer]
    split
    · rfl
    · rfl
  · show SearchResponse.pagesOf g.total plan.pageSize = _
    rw [htotal, hplanSize, hsame, pagesFound]

/-! ## Page after page -/

/-- The records of some pages of a search, asked for one after the other. -/
def recordsOfPages (s : SearchService MemoryIndex MemoryReader) (r : SearchRequest)
    (pages : List Nat) : Searching MemoryIndex MemoryReader (List (List Record)) :=
  pages.mapM fun (page : Nat) => do return (← s.search { r with page := page }).records

/-- **Pages asked for one after the other** are parts of one list. -/
theorem run_recordsOfPages (hbatch : 1 ≤ settings.batchSize)
    (hstages : (Query.read r.query).hasStages = false) (ho : r.order.key.isPushable = true)
    (hsize : 1 ≤ (inMemory settings).pageSizeOf r) (h : w.state.Sound leases) (pages : List Nat)
    (hpages : ∀ page ∈ pages, ((page : Int) + 1) * (inMemory settings).pageSizeOf r ≤ countLimit) :
    ∃ u : World MemorySourcing,
      Call.on (recordsOfPages (inMemory settings) r pages) w =
        (.ok (pages.map fun (page : Nat) => pageOf page ((inMemory settings).pageSizeOf r)
          ((inMemory settings).foundInOrder r w.state.outside)), u) ∧
      u.state.Sound leases ∧ u.state.outside.contents = w.state.outside.contents := by
  induction pages generalizing w with
  | nil => exact ⟨w, rfl, h, rfl⟩
  | cons page rest ih =>
      obtain ⟨answer, v, hsearch, hrecords, -, hsound, hcontents⟩ :=
        run_search hbatch hstages ho hsize (Int.natCast_nonneg page) h
      obtain ⟨u, hrest, hsound', hcontents'⟩ :=
        ih hsound fun p hp => hpages p (List.mem_cons_of_mem _ hp)
      have hsame : (inMemory settings).foundInOrder r v.state.outside =
          (inMemory settings).foundInOrder r w.state.outside := by
        rw [foundInOrder, foundInOrder, found_congr _ r hcontents]
      refine ⟨u, ?_, hsound', hcontents'.trans hcontents⟩
      rw [if_neg (Int.not_lt.2 (hpages page (List.mem_cons_self ..)))] at hsearch
      have hpage : Call.on (do
          return (← (inMemory settings).search { r with page := page }).records) w =
          (.ok answer.records, v) := Call.on_bind_ok hsearch
      rw [recordsOfPages, List.mapM_cons, Call.on_bind_ok hpage]
      rw [recordsOfPages, hsame] at hrest
      rw [Call.on_bind_ok hrest, hrecords]
      rfl

/-- All pages, asked for one after the other, have every match in order. -/
theorem run_allPages (hbatch : 1 ≤ settings.batchSize)
    (hstages : (Query.read r.query).hasStages = false) (ho : r.order.key.isPushable = true)
    (hsize : 1 ≤ (inMemory settings).pageSizeOf r) (h : w.state.Sound leases)
    (hexact : (((inMemory settings).found r w.state.outside).flatten.length : Int) < 2 ^ 53)
    (hlimit : (inMemory settings).pagesFound r w.state.outside *
      (inMemory settings).pageSizeOf r ≤ countLimit) :
    ∃ (first : List (List Record)) (last : List Record) (u : World MemorySourcing),
      Call.on (recordsOfPages (inMemory settings) r
          (List.range ((inMemory settings).pagesFound r w.state.outside).toNat)) w =
        (.ok (first ++ [last]), u) ∧
      (first ++ [last]).flatten = (inMemory settings).foundInOrder r w.state.outside ∧
      (((inMemory settings).found r w.state.outside).flatten ≠ [] → last ≠ []) := by
  have hlength := (perm_foundInOrder (inMemory settings) r w.state.outside).length_eq
  have hholds := SearchResponse.le_pagesOf_mul (Int.natCast_nonneg _) hexact hsize
  have hone := SearchResponse.pagesOf_pos
    ((inMemory settings).found r w.state.outside).flatten.length ((inMemory settings).pageSizeOf r)
  rw [pagesFound] at hlimit ⊢
  obtain ⟨before, hbefore⟩ := Int.eq_ofNat_of_zero_le (Int.sub_nonneg_of_le hone)
  have hpages : SearchResponse.pagesOf
      ((inMemory settings).found r w.state.outside).flatten.length
      ((inMemory settings).pageSizeOf r) = (before : Int) + 1 := by omega
  rw [hpages] at hlimit hholds ⊢
  have hcounted : ∀ page ∈ List.range (before + 1),
      ((page : Int) + 1) * (inMemory settings).pageSizeOf r ≤ countLimit := by
    intro page hpage
    rw [List.mem_range] at hpage
    exact (Int.mul_le_mul_of_nonneg_right (by omega) (by omega)).trans hlimit
  obtain ⟨u, hrun, -⟩ := run_recordsOfPages hbatch hstages ho hsize h _ hcounted
  have hflatten := flatten_pages (by omega : 0 ≤ (inMemory settings).pageSizeOf r)
    ((inMemory settings).foundInOrder r w.state.outside) (before + 1)
  have hall : ((inMemory settings).foundInOrder r w.state.outside).length ≤
      (before + 1) * ((inMemory settings).pageSizeOf r).toNat := by
    rw [← Int.ofNat_le, Int.natCast_mul, Int.toNat_of_nonneg (by omega), hlength]
    exact_mod_cast hholds
  rw [List.take_of_length_le hall] at hflatten
  rw [List.range_succ, List.map_append] at hflatten
  rw [show ((before : Int) + 1).toNat = before + 1 by omega, hrun, List.range_succ, List.map_append]
  refine ⟨_, _, u, rfl, hflatten, fun hsome hnone => ?_⟩
  -- an empty last page would leave all matches to the pages before it
  have hfew := (pageOf_eq_nil_iff (Int.natCast_nonneg before) hsize).1 hnone
  have hless := (Int.lt_succ (before : Int)).trans_eq hpages.symm
  have hmore := SearchResponse.mul_lt_of_lt_pagesOf
    (by exact_mod_cast List.length_pos_iff.2 hsome) hexact hsize hless
  omega

/-- **Pages are counted exactly**, for fewer than 2⁵³ hits and pages of any size: there are as many
as are needed, and always one.  A search shows the number of pages of all its matches on every page
but those that end behind `countLimit`, which fail.  Where none of its pages does, **the pages asked
for one after the other have every match once**, in the order of the search; the last page is not
empty if there are matches, and the page behind it is, if it can be counted to. -/
theorem pages_of_search (hreach : Leasing.Reachable ⟨w.state, leases⟩)
    (hbatch : 1 ≤ settings.batchSize) (hstages : (Query.read r.query).hasStages = false)
    (ho : r.order.key.isPushable = true) (hsize : 1 ≤ (inMemory settings).pageSizeOf r) :
    (∀ hits size : Int, 0 ≤ hits → hits < 2 ^ 53 → 1 ≤ size →
      ∃ least, IsLeast {pages : Int | hits ≤ pages * size} least ∧
        SearchResponse.pagesOf hits size = max 1 least) ∧
    (∀ page : Int, 0 ≤ page →
      (Call.on ((inMemory settings).search { r with page := page }) w).1.map
          SearchResponse.totalPages =
        if countLimit < (page + 1) * (inMemory settings).pageSizeOf r then .error .windowEnd
        else .ok ((inMemory settings).pagesFound r w.state.outside)) ∧
    ((((inMemory settings).found r w.state.outside).flatten.length : Int) < 2 ^ 53 →
      ((inMemory settings).pagesFound r w.state.outside *
          (inMemory settings).pageSizeOf r ≤ countLimit →
        ∃ (first : List (List Record)) (last : List Record) (u : World MemorySourcing),
          Call.on (recordsOfPages (inMemory settings) r
              (List.range ((inMemory settings).pagesFound r w.state.outside).toNat)) w =
            (.ok (first ++ [last]), u) ∧
          (first ++ [last]).flatten = (inMemory settings).foundInOrder r w.state.outside ∧
          (first ++ [last]).flatten.Perm ((inMemory settings).found r w.state.outside).flatten ∧
          (((inMemory settings).found r w.state.outside).flatten ≠ [] → last ≠ [])) ∧
      (((inMemory settings).pagesFound r w.state.outside + 1) *
          (inMemory settings).pageSizeOf r ≤ countLimit →
        recordsOn (inMemory settings) r w ((inMemory settings).pagesFound r w.state.outside) =
          .ok [])) := by
  refine ⟨fun hits size => SearchResponse.exists_isLeast_pages, fun page hpage => ?_,
    fun hexact => ⟨fun hlimit => ?_, fun hlimit => ?_⟩⟩
  · obtain ⟨answer, u, hsearch, -, htotal, -⟩ :=
      run_search hbatch hstages ho hsize hpage hreach.sound
    rw [hsearch]
    by_cases hbehind : countLimit < (page + 1) * (inMemory settings).pageSizeOf r
    · rw [if_pos hbehind, if_pos hbehind]
      rfl
    · rw [if_neg hbehind, if_neg hbehind]
      exact congrArg Except.ok htotal
  · obtain ⟨first, last, u, hrun, hall, hlast⟩ :=
      run_allPages hbatch hstages ho hsize hreach.sound hexact hlimit
    exact ⟨first, last, u, hrun, hall, hall ▸ perm_foundInOrder .., hlast⟩
  · have hpages : 0 ≤ (inMemory settings).pagesFound r w.state.outside :=
      (SearchResponse.pagesOf_pos _ _).trans' (by decide)
    obtain ⟨answer, u, hsearch, hrecords, -⟩ :=
      run_search hbatch hstages ho hsize hpages hreach.sound
    rw [recordsOn, hsearch, if_neg (Int.not_lt.2 hlimit)]
    refine congrArg Except.ok (hrecords.trans ((pageOf_eq_nil_iff hpages hsize).2 ?_))
    rw [(perm_foundInOrder (inMemory settings) r w.state.outside).length_eq]
    exact SearchResponse.le_pagesOf_mul (Int.natCast_nonneg _) hexact hsize

end Searches

/-- A search for pages of so many records. -/
def askInPagesOf (size : Int) : SearchRequest :=
  { SearchRequest.ofQuery "" with sources := ["app"], pageSize := some size }

/-- One record is on one page, the next one is empty, and a page that is too great fails. -/
theorem pages_of_oneRecord :
    (Call.on ((inMemory .standard).search (askInPagesOf (countLimit + 1)))
        ⟨(Leasing.start MemoryIndex.oneRecord).sourcing, []⟩).1.map SearchResponse.totalPages =
      .error .windowEnd ∧
    SearchResponse.pagesOf 1 (countLimit + 1) = 1 ∧
    (∃ (first : List (List Record)) (last : List Record) (u : World MemorySourcing),
      Call.on (recordsOfPages (inMemory .standard) (askInPagesOf countLimit) (List.range 1))
          ⟨(Leasing.start MemoryIndex.oneRecord).sourcing, []⟩ = (.ok (first ++ [last]), u) ∧
        (first ++ [last]).flatten.Perm
          [{ (default : Record) with raw := "x" }.withHit (.ofInt 1) "app"] ∧ last ≠ []) ∧
    recordsOn (inMemory .standard) (askInPagesOf 1)
      ⟨(Leasing.start MemoryIndex.oneRecord).sourcing, []⟩ 1 = .ok [] := by
  have hreach : Leasing.Reachable ⟨(Leasing.start MemoryIndex.oneRecord).sourcing, []⟩ :=
    ⟨MemoryIndex.oneRecord, [], rfl⟩
  have hfound : ∀ size, (inMemory .standard).found (askInPagesOf size)
      (Leasing.start MemoryIndex.oneRecord).sourcing.outside =
        [[{ (default : Record) with raw := "x" }.withHit (.ofInt 1) "app"]] := by
    intro size
    show (inMemory .standard).found (askInPagesOf 1) _ = _
    decide +kernel
  have hone : ∀ size, SearchResponse.pagesOf 1
      ((inMemory .standard).pageSizeOf (askInPagesOf size)) = 1 →
      (inMemory .standard).pagesFound (askInPagesOf size)
        (Leasing.start MemoryIndex.oneRecord).sourcing.outside = 1 := by
    intro size hsize
    rw [pagesFound, hfound]
    exact hsize
  refine ⟨?_, by decide +kernel, ?_, ?_⟩
  · exact ((@pages_of_search .standard (askInPagesOf (countLimit + 1))
      ⟨(Leasing.start MemoryIndex.oneRecord).sourcing, []⟩ [] _ hreach (by decide) (by decide)
      (by decide) (by decide)).2.1 0 (by decide)).trans (if_pos (by decide))
  · have hcounted := (@pages_of_search .standard (askInPagesOf countLimit)
      ⟨(Leasing.start MemoryIndex.oneRecord).sourcing, []⟩ [] _ hreach (by decide) (by decide)
      (by decide) (by decide)).2.2
    dsimp only at hcounted
    rw [hone countLimit (by decide +kernel), hfound] at hcounted
    obtain ⟨first, last, u, hrun, -, hperm, hlast⟩ := (hcounted (by decide)).1 (by decide)
    exact ⟨first, last, u, hrun, hperm, hlast (by simp)⟩
  · have hcounted := (@pages_of_search .standard (askInPagesOf 1)
      ⟨(Leasing.start MemoryIndex.oneRecord).sourcing, []⟩ [] _ hreach (by decide) (by decide)
      (by decide) (by decide)).2.2
    dsimp only at hcounted
    rw [hone 1 (by decide +kernel), hfound] at hcounted
    exact (hcounted (by decide)).2 (by decide)

end SearchService

end PipeQuery
