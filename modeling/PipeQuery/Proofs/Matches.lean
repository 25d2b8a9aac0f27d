import PipeQuery.Proofs.Ranks
import PipeQuery.Source.MemoryIndex

/-!
# What a source finds

A reader answers with hits, which are record numbers with scores; what they
stand for are the records of the source that a filter selects, with their
scores (`matchesIn`).

* `map_shown_hits`: the hits in document order stand for the matches.
* `map_shown_search`: in the order by score or instant, the first hits stand
  for the first records of the stable sort of the matches.
* `scoresAreNumbers_matchesIn`: the score of a match is a number, so the orders
  of `PipeQuery.Proofs.Ranks` apply.
-/

namespace PipeQuery

/-- The records of a source that a filter selects in a range, in document
order, as they are found there. -/
def matchesIn (source : String) (records : List Record) (filter : String)
    (range : Option TimeRange) : List Record :=
  records.filterMap fun r =>
    if range.all fun range => range.holds r.millis? then
      (scoreUnder? (filterTerms filter) r).map fun score => r.withHit score source
    else none

/-! ## Scores -/

namespace Binary64

/-- Not negative, and a number. -/
inductive IsCount : Binary64 → Prop
  | infinite : IsCount (.infinite false)
  | finite (units : Nat) (fits : FitsSignificand units) (bounded : units < overflowUnits) :
      IsCount (.finite false units fits bounded)

theorem IsCount.isNaN_eq_false {a : Binary64} (h : a.IsCount) : a.isNaN = false := by
  cases h <;> rfl

theorem isCount_ofFraction (num den : Nat) : (ofFraction false num den).IsCount := by
  unfold ofFraction
  split
  · exact .finite _ _ _
  · exact .infinite

theorem isCount_ofInt (n : Nat) : (ofInt n).IsCount := by
  have hneg : decide ((n : Int) < 0) = false := by
    rw [decide_eq_false_iff_not]
    omega
  rw [ofInt, hneg]
  exact isCount_ofFraction _ _

theorem isCount_zero : (zero false).IsCount := .finite _ _ _

/-- The sum of two counts is one. -/
theorem IsCount.add {a b : Binary64} (ha : a.IsCount) (hb : b.IsCount) : (a + b).IsCount := by
  show (Binary64.add a b).IsCount
  cases ha with
  | infinite =>
      cases hb with
      | infinite => exact .infinite
      | finite v _ _ => exact .infinite
  | finite u _ _ =>
      cases hb with
      | infinite => exact .infinite
      | finite v _ _ =>
          have hsum : signedUnits false u + signedUnits false v = ((u + v : Nat) : Int) := by
            simp [signedUnits]
          have hneg : decide (((u + v : Nat) : Int) < 0) = false := by
            rw [decide_eq_false_iff_not]
            omega
          unfold Binary64.add
          simp only [hsum, hneg]
          split
          · exact isCount_zero
          · exact isCount_ofFraction _ _

end Binary64

/-- A score counts: it starts at one and only grows. -/
theorem isCount_of_scoreUnder? {terms : List FilterTerm} {r : Record} {score : Binary64}
    (h : scoreUnder? terms r = some score) : score.IsCount := by
  have hstart : ∀ x, some (Binary64.ofInt 1) = some x → x.IsCount := by
    intro x hx
    rw [← Option.some.inj hx]
    exact Binary64.isCount_ofInt 1
  unfold scoreUnder? at h
  dsimp only at h
  generalize some (Binary64.ofInt 1) = start at h hstart
  induction terms generalizing start with
  | nil => exact hstart score h
  | cons term rest ih =>
      refine ih _ h ?_
      intro x hx
      cases start with
      | none => simp at hx
      | some y =>
          cases hterm : term.score? (Text.lowerChars r.raw.toList) r with
          | none => simp [hterm] at hx
          | some n =>
              simp only [hterm, Option.some.injEq] at hx
              rw [← hx]
              split
              · exact hstart y rfl
              · exact (hstart y rfl).add (Binary64.isCount_ofInt n)

theorem scoresAreNumbers_matchesIn (source : String) (records : List Record) (filter : String)
    (range : Option TimeRange) :
    Comparator.ScoresAreNumbers (matchesIn source records filter range) := by
  intro r hr
  obtain ⟨r₀, _, hr₀⟩ := List.mem_filterMap.1 hr
  split at hr₀
  · obtain ⟨score, hscore, rfl⟩ := Option.map_eq_some_iff.1 hr₀
    exact (isCount_of_scoreUnder? hscore).isNaN_eq_false
  · cases hr₀

/-! ## Hits -/

namespace MemoryReader

/-- The record of a number. -/
def recordOf (reader : MemoryReader) (number : Int) : Record :=
  (itemAt? reader.records number).getD default

/-- The record that a hit stands for. -/
def shown (reader : MemoryReader) (h : Hit) : Record :=
  (reader.recordOf h.number).withHit h.score reader.source

theorem itemAt?_natCast {α : Type} (items : List α) (n : Nat) :
    itemAt? items (n : Int) = items[n]? := by
  rw [itemAt?, if_neg (by omega), Int.toNat_natCast]

theorem mem_hits {reader : MemoryReader} {query : String} {range : Option TimeRange} {h : Hit}
    (hmem : h ∈ reader.hits query range) :
    ∃ r, itemAt? reader.records h.number = some r ∧
      scoreUnder? (filterTerms query) r = some h.score := by
  obtain ⟨⟨r, n⟩, hrn, hh⟩ := List.mem_filterMap.1 hmem
  dsimp only at hh
  split at hh
  · obtain ⟨score, hscore, rfl⟩ := Option.map_eq_some_iff.1 hh
    refine ⟨r, ?_, hscore⟩
    rw [itemAt?_natCast]
    exact List.mem_zipIdx_iff_getElem?.1 hrn
  · cases hh

/-- **The hits stand for the matches.** -/
theorem map_shown_hits (reader : MemoryReader) (query : String) (range : Option TimeRange) :
    (reader.hits query range).map reader.shown =
      matchesIn reader.source reader.records query range := by
  have hfst : matchesIn reader.source reader.records query range =
      matchesIn reader.source (reader.records.zipIdx.map Prod.fst) query range := by
    rw [List.zipIdx_map_fst]
  rw [hfst, hits, hitsAmong, matchesIn, List.map_filterMap, List.filterMap_map]
  refine List.filterMap_congr ?_
  rintro ⟨r, n⟩ hrn
  have hitem : itemAt? reader.records (n : Int) = some r := by
    rw [itemAt?_natCast]
    exact List.mem_zipIdx_iff_getElem?.1 hrn
  simp only [Function.comp_apply]
  split
  · rw [Option.map_map]
    refine congrFun (congrArg Option.map (funext fun score => ?_)) _
    simp [shown, recordOf, hitem]
  · rfl

theorem takeTo_of_nonneg {α : Type} {stop : Int} (h : 0 ≤ stop) (items : List α) :
    takeTo stop items = items.take stop.toNat := by
  rw [takeTo, placeOf, if_neg (by omega)]
  rcases Nat.le_total stop.toNat items.length with hle | hle
  · rw [Nat.min_eq_left hle]
  · rw [Nat.min_eq_right hle, List.take_of_length_le hle, List.take_length]

/-- The rank of a hit is that of the record it stands for. -/
def rankOfHit (reader : MemoryReader) (o : SortOrder) (h : Hit) : Rank :=
  o.rank (reader.shown h)

theorem millis?_shown {reader : MemoryReader} {h : Hit} {r : Record}
    (hr : itemAt? reader.records h.number = some r) : (reader.shown h).millis? = r.millis? := by
  simp [shown, recordOf, hr, Record.millis?]

/-- By score, hits are sorted by rank. -/
theorem orderHits_score {reader : MemoryReader} {descending : Bool} {hits : List Hit}
    (hhits : ∀ h ∈ hits, h.score.isNaN = false) :
    orderHits reader.records (some ⟨.score, descending⟩) hits =
      sortBy (reader.rankOfHit ⟨.score, descending⟩) hits := by
  have hmap : (hits.mergeSort fun a b =>
      if descending then b.score.le a.score else a.score.le b.score).map id =
      (hits.map id).mergeSort fun a b => decide (reader.rankOfHit ⟨.score, descending⟩ a ≤
        reader.rankOfHit ⟨.score, descending⟩ b) := by
    refine List.map_mergeSort fun a ha b hb => ?_
    rw [Bool.eq_iff_iff, decide_eq_true_iff]
    show _ ↔ SortOrder.directed _ _ ≤ SortOrder.directed _ _
    rw [SortOrder.directed_le_iff]
    cases descending with
    | true => exact Binary64.le_iff_rank_le (hhits b hb) (hhits a ha)
    | false => exact Binary64.le_iff_rank_le (hhits a ha) (hhits b hb)
  rwa [List.map_id, List.map_id] at hmap

/-! ## By instant -/

/-- The instant of the record that a hit stands for. -/
def instantOf (reader : MemoryReader) (h : Hit) : Option Int :=
  (itemAt? reader.records h.number).bind Record.millis?

theorem rankOfHit_of_instant {reader : MemoryReader} {h : Hit} {descending : Bool} {millis : Int}
    (hh : reader.instantOf h = some millis) :
    reader.rankOfHit ⟨.timestamp, descending⟩ h =
      SortOrder.directed ⟨.timestamp, descending⟩ millis := by
  obtain ⟨r, hr, hmillis⟩ := Option.bind_eq_some_iff.1 hh
  unfold rankOfHit SortOrder.rank SortOrder.rankOf
  simp only [millis?_shown hr, hmillis]

theorem rankOfHit_of_no_instant {reader : MemoryReader} {h : Hit} {descending : Bool}
    (hitem : ∃ r, itemAt? reader.records h.number = some r) (hh : reader.instantOf h = none) :
    reader.rankOfHit ⟨.timestamp, descending⟩ h = ⊤ := by
  obtain ⟨r, hr⟩ := hitem
  rw [instantOf, hr, Option.bind_some] at hh
  unfold rankOfHit SortOrder.rank SortOrder.rankOf
  simp only [millis?_shown hr, hh]

/-- The hits with an instant, as they are collected with it. -/
theorem map_snd_timed (reader : MemoryReader) (hits : List Hit) :
    (hits.filterMap fun h => (reader.instantOf h).map fun millis => (millis, h)).map Prod.snd =
      hits.filter fun h => (reader.instantOf h).isSome := by
  induction hits with
  | nil => rfl
  | cons h rest ih =>
      cases hh : reader.instantOf h with
      | none => simp [hh, ih]
      | some millis => simp [hh, ih]

/-- Sorting the hits with an instant by it is sorting them by rank. -/
theorem sort_timed (reader : MemoryReader) (descending : Bool) (hits : List Hit) :
    ((hits.filterMap fun h => (reader.instantOf h).map fun millis => (millis, h)).mergeSort
      fun a b => if descending then b.1 ≤ a.1 else a.1 ≤ b.1).map Prod.snd =
      sortBy (reader.rankOfHit ⟨.timestamp, descending⟩)
        (hits.filter fun h => (reader.instantOf h).isSome) := by
  rw [← map_snd_timed]
  refine List.map_mergeSort fun a ha b hb => ?_
  have hinstant : ∀ p ∈ hits.filterMap fun h =>
      (reader.instantOf h).map fun millis => (millis, h), reader.instantOf p.2 = some p.1 := by
    intro p hp
    obtain ⟨h, _, hh⟩ := List.mem_filterMap.1 hp
    obtain ⟨millis, hmillis, rfl⟩ := Option.map_eq_some_iff.1 hh
    exact hmillis
  rw [rankOfHit_of_instant (hinstant a ha), rankOfHit_of_instant (hinstant b hb),
    Bool.eq_iff_iff, decide_eq_true_iff, SortOrder.directed_le_iff]
  cases descending with
  | true => exact decide_eq_true_iff
  | false => exact decide_eq_true_iff

/-- By instant, hits are sorted by rank, those without an instant last. -/
theorem orderHits_timestamp {reader : MemoryReader} {descending : Bool} {hits : List Hit}
    (hhits : ∀ h ∈ hits, ∃ r, itemAt? reader.records h.number = some r) :
    orderHits reader.records (some ⟨.timestamp, descending⟩) hits =
      sortBy (reader.rankOfHit ⟨.timestamp, descending⟩) hits := by
  have htimed : ∀ h ∈ hits, (reader.instantOf h).isSome = true ↔
      reader.rankOfHit ⟨.timestamp, descending⟩ h < ⊤ := by
    intro h hh
    cases hinstant : reader.instantOf h with
    | none => simp [rankOfHit_of_no_instant (hhits h hh) hinstant]
    | some millis => simp [rankOfHit_of_instant hinstant, SortOrder.directed_lt_top]
  have huntimed : ∀ h ∈ hits, (reader.instantOf h).isNone = true ↔
      reader.rankOfHit ⟨.timestamp, descending⟩ h = ⊤ := by
    intro h hh
    rw [← not_iff_not, ← ne_eq (reader.rankOfHit _ h), ← lt_top_iff_ne_top, ← htimed h hh,
      Bool.not_eq_true, Option.isNone_eq_false_iff]
  rw [← sortBy_filter_append (fun _ _ => le_top) htimed huntimed, ← sort_timed]
  rfl

/-! ## Searching -/

/-- The hits in an order that sources know are sorted by rank. -/
theorem orderHits_eq_sortBy {reader : MemoryReader} {o : SortOrder} (ho : o.key.isPushable = true)
    (query : String) (range : Option TimeRange) :
    orderHits reader.records (some o) (reader.hits query range) =
      sortBy (reader.rankOfHit o) (reader.hits query range) := by
  obtain ⟨key, descending⟩ := o
  cases key with
  | score =>
      refine orderHits_score fun h hh => ?_
      obtain ⟨r, _, hscore⟩ := mem_hits hh
      exact (isCount_of_scoreUnder? hscore).isNaN_eq_false
  | timestamp =>
      refine orderHits_timestamp fun h hh => ?_
      obtain ⟨r, hr, _⟩ := mem_hits hh
      exact ⟨r, hr⟩
  | field name => simp [SortKey.isPushable] at ho

/-- **The first hits in an order** stand for the first matches in that order. -/
theorem map_shown_search {reader : MemoryReader} {o : SortOrder} (ho : o.key.isPushable = true)
    (query : String) (range : Option TimeRange) {limit : Int} (hlimit : 0 ≤ limit) :
    (reader.search query range (some limit) (some o)).map reader.shown =
      (sortBy o.rank (matchesIn reader.source reader.records query range)).take limit.toNat := by
  have hsearch : reader.search query range (some limit) (some o) =
      (orderHits reader.records (some o) (reader.hits query range)).take limit.toNat :=
    takeTo_of_nonneg hlimit _
  rw [hsearch, orderHits_eq_sortBy ho, List.map_take, ← map_shown_hits, sortBy_map]
  rfl

/-- The first hits in document order stand for the first matches. -/
theorem map_shown_search_none (reader : MemoryReader) (query : String) (range : Option TimeRange)
    {limit : Int} (hlimit : 0 ≤ limit) :
    (reader.search query range (some limit) none).map reader.shown =
      (matchesIn reader.source reader.records query range).take limit.toNat := by
  have hsearch : reader.search query range (some limit) none =
      (reader.hits query range).take limit.toNat := takeTo_of_nonneg hlimit _
  rw [hsearch, List.map_take, map_shown_hits]

/-- Every hit that a search gives is one of the hits. -/
theorem mem_search {reader : MemoryReader} {query : String} {range : Option TimeRange}
    {limit : Option Int} {order : Option SortOrder} {h : Hit}
    (horder : ∀ o, order = some o → o.key.isPushable = true)
    (hmem : h ∈ reader.search query range limit order) : h ∈ reader.hits query range := by
  have hordered : h ∈ orderHits reader.records order (reader.hits query range) := by
    unfold search at hmem
    cases limit with
    | none => exact hmem
    | some stop => exact List.mem_of_mem_take hmem
  cases order with
  | none => exact hordered
  | some o =>
      rw [orderHits_eq_sortBy (horder o rfl)] at hordered
      exact (mem_sortBy _).1 hordered

/-- Fetching the records of hits gives them all. -/
theorem fetch_hits {reader : MemoryReader} {query : String} {range : Option TimeRange}
    (hits : List Hit) (hhits : ∀ h ∈ hits, h ∈ reader.hits query range) :
    reader.fetch (hits.map Hit.number) = .ok (hits.map fun h => reader.recordOf h.number) := by
  induction hits with
  | nil => rfl
  | cons h rest ih =>
      obtain ⟨r, hr, _⟩ := mem_hits (hhits h (List.mem_cons_self ..))
      rw [List.map_cons, fetch, hr, ih fun h' hh' => hhits h' (List.mem_cons_of_mem _ hh')]
      simp [Except.map, recordOf, hr]

end MemoryReader

end PipeQuery
