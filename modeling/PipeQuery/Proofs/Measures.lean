import PipeQuery.Proofs.Tallies
import Mathlib.Data.Finset.Card
import Mathlib.Data.Finset.Dedup
import Mathlib.Data.List.MinMax

/-!
# What measures mean

A measure is said here of all records of a group at once (`Measure.Means`): a count
is the number of the records, a sum adds up their numbers from the left, the least
number is one of them that is not above any other.

* `Tally.foldl_keep_eq_argmin`: keeping the lesser of two again and again comes to the
  least of all.
* `Tally.means_ofRecords`: a tally, which takes one record at a time, comes to what
  its measure means.
-/

namespace PipeQuery

/-- The sum of some numbers, from the left. -/
def sumOf (numbers : List Binary64) : Binary64 := numbers.foldl (· + ·) (.zero false)

/-- One of some numbers that is before all of them; zero without numbers. -/
def IsExtreme (before : Binary64 → Binary64 → Bool) (numbers : List Binary64) (x : Binary64) : Prop :=
  (numbers = [] ∧ x = .zero false) ∨ x ∈ numbers ∧ ∀ y ∈ numbers, before x y = true

/-- What a measure comes to, said of all records of a group at once. -/
def Measure.Means (records : List Record) (n : Number) : Measure → Prop
  | .count => n = .integer records.length
  | .ofField .distinct field => n = .integer (textsOf field records).toFinset.card
  | .ofField .sum field => n = .binary (sumOf (numbersOf field records))
  | .ofField .average field =>
    n = .binary (if numbersOf field records = [] then .zero false
      else sumOf (numbersOf field records) / .ofInt (numbersOf field records).length)
  | .ofField .least field =>
    ∃ x, n = .binary x ∧ IsExtreme (fun x y => x.le y) (numbersOf field records) x
  | .ofField .greatest field =>
    ∃ x, n = .binary x ∧ IsExtreme (fun x y => y.le x) (numbersOf field records) x

namespace Tally

theorem total_foldl_addNumber (numbers : List Binary64) (t : Tally) :
    (numbers.foldl addNumber t).total = numbers.foldl (· + ·) t.total :=
  (List.foldl_hom total fun _ _ => rfl).symm

theorem numbers_foldl_addNumber (numbers : List Binary64) (t : Tally) :
    (numbers.foldl addNumber t).numbers = t.numbers + numbers.length := by
  induction numbers generalizing t with
  | nil => rfl
  | cons x rest ih =>
      rw [List.foldl_cons, ih, List.length_cons]
      show t.numbers + 1 + rest.length = _
      omega

/-- What is kept of some counts is the first one with the least key. -/
theorem foldl_keep_eq_argmin {choose : Binary64 → Binary64 → Binary64} {key : Binary64 → ℤ}
    (hchoose : ∀ {x y : Binary64}, x.IsCount → y.IsCount → choose x y = lesser key x y)
    {numbers : List Binary64} (hcounts : ∀ x ∈ numbers, x.IsCount) :
    numbers.foldl (keep choose) none = numbers.argmin key := by
  have hfold : ∀ kept : Option Binary64, (∀ x ∈ kept, x.IsCount) →
      numbers.foldl (keep choose) kept =
        numbers.foldl (List.argAux fun x y => key x < key y) kept := by
    induction numbers with
    | nil => exact fun _ _ => rfl
    | cons x rest ih =>
        intro kept hkept
        have hx := hcounts x (List.mem_cons_self ..)
        have hstep : keep choose kept x = List.argAux (fun x y => key x < key y) kept x := by
          cases kept with
          | none => rfl
          | some y =>
              show some (choose y x) = if key x < key y then some x else some y
              rw [hchoose (hkept y rfl) hx, lesser]
              split <;> rfl
        have hnext : ∀ z ∈ List.argAux (fun x y => key x < key y) kept x, z.IsCount := by
          intro z hz
          cases kept with
          | none =>
              obtain rfl := Option.some.inj hz
              exact hx
          | some y =>
              change (if key x < key y then some x else some y) = some z at hz
              split at hz
              · obtain rfl := Option.some.inj hz
                exact hx
              · obtain rfl := Option.some.inj hz
                exact hkept y rfl
        rw [List.foldl_cons, List.foldl_cons, hstep]
        exact ih (fun z hz => hcounts z (List.mem_cons_of_mem _ hz)) _ hnext
  exact hfold none fun _ hx => by cases hx

/-- What is kept of some counts is the one with the least key; zero without any. -/
theorem isExtreme_foldl_keep {choose : Binary64 → Binary64 → Binary64} {key : Binary64 → ℤ}
    {before : Binary64 → Binary64 → Bool}
    (hchoose : ∀ {x y : Binary64}, x.IsCount → y.IsCount → choose x y = lesser key x y)
    (hbefore : ∀ {x y : Binary64}, x.IsCount → y.IsCount → key x ≤ key y → before x y = true)
    {numbers : List Binary64} (hcounts : ∀ x ∈ numbers, x.IsCount) :
    IsExtreme before numbers ((numbers.foldl (keep choose) none).getD (.zero false)) := by
  rw [foldl_keep_eq_argmin hchoose hcounts]
  cases hkept : numbers.argmin key with
  | none => exact Or.inl ⟨List.argmin_eq_none.1 hkept, rfl⟩
  | some x =>
      have hmem : x ∈ numbers := List.argmin_mem hkept
      exact Or.inr ⟨hmem, fun y hy =>
        hbefore (hcounts x hmem) (hcounts y hy) (List.le_of_mem_argmin hy hkept)⟩

/-- **What a tally comes to** is what its measure means for all records at once. -/
theorem means_ofRecords (m : Measure) (records : List Record) :
    m.Means records ((ofRecords m records).value m) := by
  cases m with
  | count => simp [Measure.Means, ofRecords, foldl_add_count, value, seen, start]
  | ofField function field =>
      have hcounts : ∀ x ∈ numbersOf field records, x.IsCount := fun x => isCount_of_mem_numbersOf
      cases function with
      | distinct =>
          have htexts : (ofRecords (.ofField .distinct field) records).texts =
              firstOccurrences (textsOf field records) := by
            simp [ofRecords, foldl_add_texts, texts_foldl_addText, seen, start]
          have hset : (textsOf field records).toFinset =
              (firstOccurrences (textsOf field records)).toFinset := by
            ext text
            simp [mem_firstOccurrences]
          simp only [Measure.Means, value, htexts]
          rw [hset, List.toFinset_card_of_nodup (nodup_firstOccurrences _)]
      | sum =>
          simp [Measure.Means, value, ofRecords, foldl_add_numbers, total_foldl_addNumber, sumOf,
            seen, start]
      | average =>
          have hnumbers : (ofRecords (.ofField .average field) records).numbers =
              (numbersOf field records).length := by
            simp [ofRecords, foldl_add_numbers, numbers_foldl_addNumber, seen, start]
          have htotal : (ofRecords (.ofField .average field) records).total =
              sumOf (numbersOf field records) := by
            simp [ofRecords, foldl_add_numbers, total_foldl_addNumber, sumOf, seen, start]
          simp only [Measure.Means, value, hnumbers, htotal, List.length_eq_zero_iff]
      | least =>
          refine ⟨_, rfl, ?_⟩
          rw [ofRecords, foldl_add_numbers (by decide), least_foldl_addNumber]
          exact isExtreme_foldl_keep
            (fun hx hy => Binary64.min_eq_lesser hx.isNaN_eq_false hy.isNaN_eq_false)
            (fun hx hy => (Binary64.le_iff_rank_le hx.isNaN_eq_false hy.isNaN_eq_false).2) hcounts
      | greatest =>
          refine ⟨_, rfl, ?_⟩
          rw [ofRecords, foldl_add_numbers (by decide), greatest_foldl_addNumber]
          refine isExtreme_foldl_keep
            (fun hx hy => Binary64.max_eq_lesser hx.isNaN_eq_false hy.isNaN_eq_false)
            (fun hx hy hle => ?_) hcounts
          rw [Binary64.le_iff_rank_le hy.isNaN_eq_false hx.isNaN_eq_false]
          omega

end Tally

end PipeQuery
