import PipeQuery.Proofs.Matches
import PipeQuery.Proofs.Rounding

/-!
# Scores

The score of a record starts at one and grows by the number of places where the words of the
filter occur.  It is kept as a binary64 number, and a sum is rounded after every word.

* `Binary64.ofInt_add`: the sum of two whole numbers up to 2⁵³ is rounded once, as the whole
  number itself is.
* `foldl_addPlaces_lt_iff`, `foldl_addPlaces_of_lt`: so a score below 2⁵³ is exact, and it is
  below 2⁵³ exactly when the true sum is.  Sums never become less, which keeps a score that
  has come to 2⁵³ from coming back.
* `scoreUnder?_eq`: a record has a score if all terms hold of it.
* `hitsAmong_eq`: the hits are the records in the range that the terms select.
-/

namespace PipeQuery

/-! ## Whole numbers -/

/-- Below this all whole numbers are exact. -/
def exactLimit : Nat := 2 ^ 53

namespace Binary64

theorem ofInt_eq (n : Nat) : ofInt n = ofFraction false (n * unitsPerOne) 1 := by
  have hneg : decide ((n : Int) < 0) = false := by
    rw [decide_eq_false_iff_not]
    omega
  rw [ofInt, hneg, Int.natAbs_natCast]

/-- A number rounded from a fraction is ordered by what it is rounded to. -/
theorem rank_ofFraction (num den : Nat) :
    (ofFraction false num den).rank =
      (Min.min (roundToSignificand num den) overflowUnits : Nat) := by
  unfold ofFraction
  split
  · next h =>
    rw [Nat.min_eq_left h.le]
    rfl
  · next h =>
    rw [Nat.min_eq_right (Nat.not_lt.1 h)]
    rfl

theorem rank_ofFraction_mono {num num' : Nat} (h : num ≤ num') :
    (ofFraction false num 1).rank ≤ (ofFraction false num' 1).rank := by
  have hround := roundToSignificand_mono Nat.one_pos Nat.one_pos (Nat.mul_le_mul_right 1 h)
  rw [rank_ofFraction, rank_ofFraction, Int.ofNat_le]
  omega

theorem rank_ofInt_mono {m n : Nat} (h : m ≤ n) : (ofInt m).rank ≤ (ofInt n).rank := by
  rw [ofInt_eq, ofInt_eq]
  exact rank_ofFraction_mono (Nat.mul_le_mul_right _ h)

/-- Whole numbers up to the limit are exact. -/
theorem ofInt_of_le {n : Nat} (h : n ≤ exactLimit) :
    ofInt n = finite false (n * unitsPerOne) (fits_whole h) (whole_lt_overflow h) := by
  have hround := roundToSignificand_of_fits (fits_whole h)
  obtain ⟨_, hfinite⟩ := ofFraction_of_lt false hround (whole_lt_overflow h)
  rw [ofInt_eq, hfinite]

theorem rank_ofInt_of_le {n : Nat} (h : n ≤ exactLimit) :
    (ofInt n).rank = (n * unitsPerOne : Nat) := by
  rw [ofInt_of_le h]
  rfl

/-- Below the limit, numbers are ordered like whole numbers. -/
theorem rank_ofInt_lt_iff {n : Nat} :
    (ofInt n).rank < (ofInt exactLimit).rank ↔ n < exactLimit := by
  constructor
  · intro h
    by_contra hge
    have := rank_ofInt_mono (Nat.not_lt.1 hge)
    omega
  · intro h
    rw [rank_ofInt_of_le h.le, rank_ofInt_of_le (Nat.le_refl _), Int.ofNat_lt]
    exact Nat.mul_lt_mul_of_pos_right h unitsPerOne_pos

/-- A sum that is not negative is rounded once. -/
theorem add_of_sum {y : Bool} {u v w : Nat} {hu : FitsSignificand u} {hu' : u < overflowUnits}
    {hv : FitsSignificand v} {hv' : v < overflowUnits}
    (hsum : signedUnits false u + signedUnits y v = (w : Int)) :
    Binary64.add (finite false u hu hu') (finite y v hv hv') = ofFraction false w 1 := by
  have hneg : decide ((w : Int) < 0) = false := by
    rw [decide_eq_false_iff_not]
    omega
  unfold Binary64.add
  simp only [hsum, hneg, Int.natAbs_natCast]
  split
  · next hzero =>
    rw [Int.natCast_eq_zero.1 hzero, ofFraction_zero]
    rfl
  · rfl

/-- The sum of two numbers without a sign. -/
theorem add_finite {u v : Nat} (hu : FitsSignificand u) (hu' : u < overflowUnits)
    (hv : FitsSignificand v) (hv' : v < overflowUnits) :
    finite false u hu hu' + finite false v hv hv' = ofFraction false (u + v) 1 :=
  add_of_sum (by simp [signedUnits])

/-- **Whole numbers are added like whole numbers**, where they are exact. -/
theorem ofInt_add {m n : Nat} (hm : m ≤ exactLimit) (hn : n ≤ exactLimit) :
    ofInt m + ofInt n = ofInt (m + n : Nat) := by
  rw [ofInt_of_le hm, ofInt_of_le hn, add_finite, ofInt_eq, Nat.add_mul]

/-- A sum of counts is not less than either of them. -/
theorem IsCount.rank_le_add {a b : Binary64} (ha : a.IsCount) (hb : b.IsCount) :
    a.rank ≤ (a + b).rank ∧ b.rank ≤ (a + b).rank := by
  cases ha with
  | infinite =>
      cases hb with
      | infinite => exact ⟨Int.le_refl _, Int.le_refl _⟩
      | finite v _ hv => exact ⟨Int.le_refl _, Int.ofNat_le.2 hv.le⟩
  | finite u hu hu' =>
      cases hb with
      | infinite => exact ⟨Int.ofNat_le.2 hu'.le, Int.le_refl _⟩
      | finite v hv hv' =>
          have hround : ∀ {w : Nat}, FitsSignificand w → w ≤ u + v →
              w ≤ roundToSignificand (u + v) 1 := by
            intro w hw hle
            have := roundToSignificand_mono Nat.one_pos Nat.one_pos (Nat.mul_le_mul_right 1 hle)
            rwa [roundToSignificand_of_fits hw] at this
          rw [add_finite, rank_ofFraction]
          exact ⟨Int.ofNat_le.2 (Nat.le_min.2 ⟨hround hu (by omega), hu'.le⟩),
            Int.ofNat_le.2 (Nat.le_min.2 ⟨hround hv (by omega), hv'.le⟩)⟩

/-- The difference of two numbers without a sign, if it has none. -/
theorem sub_finite {u v : Nat} (hu : FitsSignificand u) (hu' : u < overflowUnits)
    (hv : FitsSignificand v) (hv' : v < overflowUnits) (hle : v ≤ u) :
    finite false u hu hu' - finite false v hv hv' = ofFraction false (u - v) 1 := by
  have hsum : signedUnits false u + signedUnits true v = ((u - v : Nat) : Int) := by
    simp [signedUnits]
    omega
  show Binary64.add (finite false u hu hu') (finite true v hv hv') = _
  exact add_of_sum hsum

/-- Whole numbers are taken away like whole numbers, where they are exact. -/
theorem ofInt_sub {m n : Nat} (hle : m ≤ n) (hn : n ≤ exactLimit) :
    ofInt n - ofInt m = ofInt (n - m : Nat) := by
  rw [ofInt_of_le hn, ofInt_of_le (hle.trans hn), sub_finite _ _ _ _ (Nat.mul_le_mul_right _ hle),
    ofInt_eq, Nat.sub_mul]

end Binary64

/-! ## Terms -/

namespace FilterTerm

/-- How often the term holds of a record. -/
def places? (t : FilterTerm) (r : Record) : Option Nat := t.score? (Text.lowerChars r.raw.toList) r

/-- The term holds of a record. -/
def holdsOf (t : FilterTerm) (r : Record) : Bool := (t.places? r).isSome

/-- The places that the term adds to the score of a record. -/
def placesIn (t : FilterTerm) (r : Record) : Nat := (t.places? r).getD 0

end FilterTerm

/-- All terms hold of a record. -/
def selects (terms : List FilterTerm) (r : Record) : Bool := terms.all fun t => t.holdsOf r

/-- The places that some terms add to the score of a record. -/
def places (terms : List FilterTerm) (r : Record) : Nat := (terms.map fun t => t.placesIn r).sum

/-- A score with the places of one more term. -/
def addPlaces (score : Binary64) (n : Nat) : Binary64 := if n = 0 then score else score + .ofInt n

/-- The score of a record, if it has one. -/
def scoreOf (terms : List FilterTerm) (r : Record) : Binary64 :=
  (terms.map fun t => t.placesIn r).foldl addPlaces (.ofInt (1 : Nat))

/-- A fold that gives up stays so. -/
theorem foldl_none {α β : Type} {step : Option β → α → Option β} (h : ∀ a, step none a = none)
    (items : List α) : items.foldl step none = none := by
  induction items with
  | nil => rfl
  | cons a rest ih => rw [List.foldl_cons, h, ih]

/-- **A record has a score if all terms hold of it.** -/
theorem scoreUnder?_eq (terms : List FilterTerm) (r : Record) :
    scoreUnder? terms r = if selects terms r then some (scoreOf terms r) else none := by
  unfold scoreUnder? scoreOf
  dsimp only
  rw [Nat.cast_one]
  generalize Binary64.ofInt 1 = start
  induction terms generalizing start with
  | nil => rfl
  | cons t rest ih =>
      rw [List.foldl_cons, List.map_cons, List.foldl_cons]
      cases ht : t.places? r with
      | none =>
          have hscore : t.score? (Text.lowerChars r.raw.toList) r = none := ht
          have hstop : selects (t :: rest) r = false := by
            simp [selects, FilterTerm.holdsOf, ht]
          rw [hstop, hscore]
          exact foldl_none (fun _ => rfl) rest
      | some n =>
          have hscore : t.score? (Text.lowerChars r.raw.toList) r = some n := ht
          have hplaces : t.placesIn r = n := by rw [FilterTerm.placesIn, ht]; rfl
          have hselects : selects (t :: rest) r = selects rest r := by
            simp [selects, FilterTerm.holdsOf, ht]
          rw [hscore, hplaces, hselects]
          exact ih (addPlaces start n)

/-! ## Sums of places -/

theorem isCount_addPlaces {x : Binary64} (hx : x.IsCount) (n : Nat) : (addPlaces x n).IsCount := by
  unfold addPlaces
  split
  · exact hx
  · exact hx.add (Binary64.isCount_ofInt n)

/-- A score never becomes less. -/
theorem rank_le_foldl_addPlaces {x : Binary64} (hx : x.IsCount) (ns : List Nat) :
    x.rank ≤ (ns.foldl addPlaces x).rank := by
  induction ns generalizing x with
  | nil => exact Int.le_refl _
  | cons n rest ih =>
      have hstep : x.rank ≤ (addPlaces x n).rank := by
        unfold addPlaces
        split
        · exact Int.le_refl _
        · exact (hx.rank_le_add (Binary64.isCount_ofInt n)).1
      exact hstep.trans (ih (isCount_addPlaces hx n))

theorem addPlaces_ofInt {m n : Nat} (hm : m ≤ exactLimit) (hn : n ≤ exactLimit) :
    addPlaces (.ofInt m) n = .ofInt (m + n : Nat) := by
  unfold addPlaces
  split
  · next hzero => rw [hzero, Nat.add_zero]
  · exact Binary64.ofInt_add hm hn

/-- **A sum of places stays exact** as long as it is below the limit. -/
theorem foldl_addPlaces_of_lt {m : Nat} {ns : List Nat} (h : m + ns.sum < exactLimit) :
    ns.foldl addPlaces (.ofInt m) = .ofInt (m + ns.sum : Nat) := by
  induction ns generalizing m with
  | nil => rw [List.sum_nil, Nat.add_zero, List.foldl_nil]
  | cons n rest ih =>
      rw [List.sum_cons] at h
      rw [List.foldl_cons, addPlaces_ofInt (by omega) (by omega), ih (by omega), List.sum_cons,
        Nat.add_assoc]

/-- The sum of two numbers of places is not less than either of them. -/
theorem rank_le_addPlaces_ofInt (m n : Nat) :
    (Binary64.ofInt m).rank ≤ (addPlaces (.ofInt m) n).rank ∧
      (Binary64.ofInt n).rank ≤ (addPlaces (.ofInt m) n).rank := by
  unfold addPlaces
  split
  · next hzero =>
    have hle : n ≤ m := by omega
    exact ⟨Int.le_refl _, Binary64.rank_ofInt_mono hle⟩
  · exact (Binary64.isCount_ofInt m).rank_le_add (Binary64.isCount_ofInt n)

/-- **A sum of places is below the limit** exactly when the true sum is. -/
theorem rank_foldl_addPlaces_lt_iff {m : Nat} {ns : List Nat} :
    (ns.foldl addPlaces (.ofInt m)).rank < (Binary64.ofInt exactLimit).rank ↔
      m + ns.sum < exactLimit := by
  constructor
  · intro h
    by_contra hge
    induction ns generalizing m with
    | nil =>
        rw [List.sum_nil, Nat.add_zero] at hge
        rw [List.foldl_nil] at h
        exact hge (Binary64.rank_ofInt_lt_iff.1 h)
    | cons n rest ih =>
        rw [List.sum_cons] at hge
        rw [List.foldl_cons] at h
        by_cases hexact : m ≤ exactLimit ∧ n ≤ exactLimit
        · rw [addPlaces_ofInt hexact.1 hexact.2] at h
          exact ih h (by omega)
        · -- one of the two alone is beyond the limit, and a sum is never less
          have hrest := rank_le_foldl_addPlaces
            (isCount_addPlaces (Binary64.isCount_ofInt m) n) rest
          have hsum := rank_le_addPlaces_ofInt m n
          rcases not_and_or.1 hexact with hm | hn
          · have := Binary64.rank_ofInt_mono (Nat.le_of_not_le hm)
            omega
          · have := Binary64.rank_ofInt_mono (Nat.le_of_not_le hn)
            omega
  · intro h
    rw [foldl_addPlaces_of_lt h, Binary64.rank_ofInt_lt_iff]
    exact h

/-- The score is below the limit. -/
def IsExact (score : Binary64) : Prop := score.lt (.ofInt exactLimit) = true

theorem isCount_scoreOf (terms : List FilterTerm) (r : Record) : (scoreOf terms r).IsCount := by
  unfold scoreOf
  have hcount := Binary64.isCount_ofInt 1
  generalize Binary64.ofInt (1 : Nat) = x at hcount ⊢
  generalize terms.map (fun t => t.placesIn r) = ns
  induction ns generalizing x with
  | nil => exact hcount
  | cons n rest ih => exact ih _ (isCount_addPlaces hcount n)

theorem isExact_scoreOf_iff {terms : List FilterTerm} {r : Record} :
    IsExact (scoreOf terms r) ↔ 1 + places terms r < exactLimit := by
  have hlimit := (Binary64.isCount_ofInt exactLimit).isNaN_eq_false
  rw [IsExact, Binary64.lt_iff_rank_lt (isCount_scoreOf terms r).isNaN_eq_false hlimit]
  exact rank_foldl_addPlaces_lt_iff

theorem scoreOf_of_lt {terms : List FilterTerm} {r : Record}
    (h : 1 + places terms r < exactLimit) : scoreOf terms r = .ofInt (1 + places terms r : Nat) :=
  foldl_addPlaces_of_lt h

/-! ## Hits -/

/-- The range holds the instant of a record. -/
def inRange (range : Option TimeRange) (r : Record) : Bool :=
  range.all fun range => range.holds r.millis?

/-- **The hits** are the records in the range that the terms select. -/
theorem hitsAmong_eq (records : List Record) (query : String) (range : Option TimeRange) :
    hitsAmong records query range =
      (records.zipIdx.filter fun p => inRange range p.1 && selects (filterTerms query) p.1).map
        fun p => ⟨p.2, scoreOf (filterTerms query) p.1⟩ := by
  rw [hitsAmong, ← List.filterMap_eq_map, ← List.filterMap_eq_filter, List.filterMap_filterMap]
  refine List.filterMap_congr ?_
  rintro ⟨r, n⟩ _
  simp only [scoreUnder?_eq]
  cases h : inRange range r <;> cases h' : selects (filterTerms query) r <;>
    simp_all [inRange, Option.guard]

end PipeQuery
