import PipeQuery.Platform.Standard
import PipeQuery.Proofs.NumbersShown

/-!
# Spellings of one number

A filter compares a field with a value in two ways: order compares numbers where both texts are
numbers, and equality compares texts.  So two spellings of one number, such as `3` and `3.0`, are
neither less nor greater than each other, and yet not equal.

* `exists_order?`: texts that are no NaN have an order.
* `compares_of_order`: what each comparison keeps.
* `coincide_shown_iff`: where a number in a cell stands, as that of every other spelling of it.
* `comparisons_of_spellings`: equality agrees with order but for two spellings of one number.
-/

namespace PipeQuery

open PipeQuery.Filter

/-- The filter that compares a field with a value. -/
def comparing (field : String) (c : Comparison) (value : String) : Filter :=
  ⟨field, value, .comparison c⟩

/-- Every comparison is found by its name. -/
theorem create_name [Platform] (field : String) (c : Comparison) (value : String) :
    create field c.name value = .ok (comparing field c value) := by
  have hnamed : Comparison.named? (Text.lower c.name) = some c := by
    cases c <;> decide +kernel
  unfold create
  simp only [hnamed]
  rfl

/-! ## Places in the order -/

/-- The text is read as NaN. -/
def ReadsAsNaN (text : String) : Prop := number? text = some .nan

instance (text : String) : Decidable (ReadsAsNaN text) :=
  inferInstanceAs (Decidable (number? text = some .nan))

/-- Two texts stand at one place of the order: as equal numbers if both are numbers, as one text
otherwise. -/
def Coincide (actual value : String) : Prop :=
  match number? actual, number? value with
  | some a, some b => a.order? b = some .eq
  | _, _ => actual = value

/-- Two texts are spellings of one number. -/
structure Respelled (actual value : String) : Prop where
  ne : actual ≠ value
  coincide : Coincide actual value

theorem textOrder_eq_iff (left right : String) : textOrder left right = .eq ↔ left = right := by
  have hless : ∀ {s t : String}, s < t → s ≠ t := by
    rintro s _ h rfl
    exact String.lt_irrefl s h
  unfold textOrder
  split
  · next h => exact iff_of_false (by decide) (hless h)
  · next h =>
    split
    · next h' => exact iff_of_false (by decide) (hless h').symm
    · next h' =>
      exact iff_of_true rfl (String.le_antisymm (String.not_lt.1 h') (String.not_lt.1 h))

theorem order?_eq_some_eq_iff (actual value : String) :
    order? actual value = some .eq ↔ Coincide actual value := by
  unfold order? Coincide
  cases number? actual with
  | none => rw [Option.some.injEq, textOrder_eq_iff]
  | some a =>
      cases number? value with
      | none => rw [Option.some.injEq, textOrder_eq_iff]
      | some b => exact Iff.rfl

theorem Binary64.exists_order? {a b : Binary64} (ha : a.isNaN = false) (hb : b.isNaN = false) :
    ∃ o, a.order? b = some o := by
  cases a with
  | nan => cases ha
  | infinite x =>
      cases b with
      | nan => cases hb
      | infinite y => exact ⟨_, rfl⟩
      | finite y v _ _ => exact ⟨_, rfl⟩
  | finite x u _ _ =>
      cases b with
      | nan => cases hb
      | infinite y => exact ⟨_, rfl⟩
      | finite y v _ _ => exact ⟨_, rfl⟩

theorem isNaN_eq_false_of_number? {text : String} (h : ¬ReadsAsNaN text) {a : Binary64}
    (ha : number? text = some a) : a.isNaN = false := by
  cases a with
  | nan => exact absurd ha h
  | infinite negative => rfl
  | finite negative units fits bounded => rfl

/-- One text stands at one place. -/
theorem coincide_self {text : String} (h : ¬ReadsAsNaN text) : Coincide text text := by
  unfold Coincide
  cases ha : number? text with
  | none => rfl
  | some a =>
      have hnumber := isNaN_eq_false_of_number? h ha
      exact (Binary64.order?_eq_some hnumber hnumber).2.2 rfl

/-- **Texts that are no NaN have an order.** -/
theorem exists_order? {actual value : String} (hactual : ¬ReadsAsNaN actual)
    (hvalue : ¬ReadsAsNaN value) : ∃ o, order? actual value = some o := by
  unfold order?
  cases ha : number? actual with
  | none => exact ⟨_, rfl⟩
  | some a =>
      cases hb : number? value with
      | none => exact ⟨_, rfl⟩
      | some b =>
          exact Binary64.exists_order? (isNaN_eq_false_of_number? hactual ha)
            (isNaN_eq_false_of_number? hvalue hb)

/-! ## Comparisons -/

/-- What the comparisons with a value make of a text: `keeps` says which of them keep it. -/
structure Compared (keeps : Comparison → Bool) (actual value : String) : Prop where
  equal_iff : keeps .equal = true ↔ actual = value
  bounds_iff : keeps .atLeast = true ∧ keeps .atMost = true ↔ Coincide actual value
  /-- Exactly one: the text is less, at the same place, or greater. -/
  place : (keeps .less = true ∧ ¬Coincide actual value ∧ keeps .greater = false) ∨
    (keeps .less = false ∧ Coincide actual value ∧ keeps .greater = false) ∨
    (keeps .less = false ∧ ¬Coincide actual value ∧ keeps .greater = true)
  /-- Equality is what both bounds keep, but for spellings of one number. -/
  agrees_iff : (keeps .equal = true ↔ keeps .atLeast = true ∧ keeps .atMost = true) ↔
    ¬Respelled actual value
  /-- Nothing but such spellings falls between the three comparisons. -/
  covered_iff : (keeps .less = true ∨ keeps .equal = true ∨ keeps .greater = true) ↔
    ¬Respelled actual value

/-- **What each comparison keeps** of texts that are no NaN. -/
theorem compared_compares {actual value : String} (hactual : ¬ReadsAsNaN actual)
    (hvalue : ¬ReadsAsNaN value) : Compared (fun c => compares c actual value) actual value := by
  obtain ⟨o, horder⟩ := exists_order? hactual hvalue
  have hplace := order?_eq_some_eq_iff actual value
  have hsame : actual = value → Coincide actual value := by
    rintro rfl
    exact coincide_self hactual
  have hrespelled : Respelled actual value ↔ actual ≠ value ∧ Coincide actual value :=
    ⟨fun h => ⟨h.ne, h.coincide⟩, fun h => ⟨h.1, h.2⟩⟩
  have hequal : compares .equal actual value = true ↔ actual = value := beq_iff_eq
  have hbounds : compares .atLeast actual value = true ∧ compares .atMost actual value = true ↔
      Coincide actual value := by
    rw [← hplace, compares, compares, horder]
    cases o <;> decide
  have hthree : (compares .less actual value = true ∧ ¬Coincide actual value ∧
        compares .greater actual value = false) ∨
      (compares .less actual value = false ∧ Coincide actual value ∧
        compares .greater actual value = false) ∨
      (compares .less actual value = false ∧ ¬Coincide actual value ∧
        compares .greater actual value = true) := by
    rw [← hplace, compares, compares, horder]
    cases o <;> decide
  refine ⟨hequal, hbounds, hthree, ?_, ?_⟩
  · rw [hequal, hbounds, hrespelled]
    constructor
    · rintro hagrees ⟨hne, hcoincide⟩
      exact hne (hagrees.2 hcoincide)
    · intro hno
      exact ⟨hsame, fun hcoincide => by_contra fun hne => hno ⟨hne, hcoincide⟩⟩
  · rw [hequal, hrespelled]
    rcases hthree with ⟨hless, hnot, _⟩ | ⟨hless, hcoincide, hgreater⟩ | ⟨_, hnot, hgreater⟩
    · exact iff_of_true (.inl hless) fun h => hnot h.2
    · rw [hless, hgreater]
      constructor
      · rintro (h | h | h) ⟨hne, -⟩
        · cases h
        · exact hne h
        · cases h
      · intro hno
        exact .inr (.inl (by_contra fun hne => hno ⟨hne, hcoincide⟩))
    · exact iff_of_true (.inr (.inr hgreater)) fun h => hnot h.2

/-! ## Cells -/

/-- **A number in a cell** stands where its value is read as an equal number, however that is
spelled. -/
theorem coincide_shown_iff (n : Number) (value : String) :
    Coincide n.shown value ↔ ∃ y, number? value = some y ∧ n.toBinary64.order? y = some .eq := by
  unfold Coincide
  rw [number?_shown]
  cases hy : number? value with
  | some y => simp
  | none =>
      refine iff_of_false ?_ (by simp)
      rintro rfl
      rw [number?_shown] at hy
      cases hy

theorem readsAsNaN_shown_iff (n : Number) : ReadsAsNaN n.shown ↔ n.toBinary64 = .nan := by
  rw [ReadsAsNaN, number?_shown, Option.some.injEq]

section Keeps

variable {field value : String}

theorem keepsRecord_comparing {r : Record} {actual : String} (hget : r.get? field = some actual)
    (c : Comparison) : (comparing field c value).keepsRecord r = compares c actual value := by
  rw [keepsRecord, comparing, hget]
  rfl

theorem keepsRow_comparing {row : Row} {cell : Cell} (hget : row.get? field = some cell)
    (c : Comparison) : (comparing field c value).keepsRow row = compares c cell.shown value := by
  rw [keepsRow, comparing, hget]
  rfl

end Keeps

/-- **Equality agrees with order but for two spellings of one number.**  Of a text that is no
NaN, in a record or in a cell, equality keeps the same text, and both bounds together keep what
stands at the same place.  For a number in a cell that is every spelling of an equal number. -/
theorem comparisons_of_spellings [Platform] {value : String} (hvalue : ¬ReadsAsNaN value)
    (field : String) :
    (∀ c : Comparison, create field c.name value = .ok (comparing field c value)) ∧
    (∀ (r : Record) (actual : String), r.get? field = some actual → ¬ReadsAsNaN actual →
      Compared (fun c => (comparing field c value).keepsRecord r) actual value) ∧
    (∀ (row : Row) (cell : Cell), row.get? field = some cell → ¬ReadsAsNaN cell.shown →
      Compared (fun c => (comparing field c value).keepsRow row) cell.shown value) ∧
    ∀ n : Number, (ReadsAsNaN n.shown ↔ n.toBinary64 = .nan) ∧
      (Coincide n.shown value ↔
        ∃ y, number? value = some y ∧ n.toBinary64.order? y = some .eq) := by
  refine ⟨fun c => create_name field c value, fun r actual hget hactual => ?_,
    fun row cell hget hactual => ?_, fun n => ⟨readsAsNaN_shown_iff n, coincide_shown_iff n value⟩⟩
  · simp only [keepsRecord_comparing hget]
    exact compared_compares hactual hvalue
  · simp only [keepsRow_comparing hget]
    exact compared_compares hactual hvalue

/-- A row with the mean 3, which is shown with a point. -/
def meanRow : Row := .ofList [("mean", .number (.binary (.ofInt 3)))]

theorem comparisons_of_mean :
    ¬ReadsAsNaN "3" ∧ meanRow.get? "mean" = some (.number (.binary (.ofInt 3))) ∧
      ¬ReadsAsNaN "3.0" ∧ Compared (fun c => (comparing "mean" c "3").keepsRow meanRow) "3.0" "3" ∧
      Respelled "3.0" "3" ∧ (comparing "mean" .equal "3").keepsRow meanRow = false := by
  have hvalue : ¬ReadsAsNaN "3" := by decide +kernel
  have hget : meanRow.get? "mean" = some (.number (.binary (.ofInt 3))) := by decide +kernel
  have hshown : (Cell.number (.binary (.ofInt 3))).shown = "3.0" := by decide +kernel
  have hactual : ¬ReadsAsNaN "3.0" := by decide +kernel
  obtain ⟨-, -, hrow, -⟩ := comparisons_of_spellings hvalue "mean"
  have hcompared := hrow meanRow _ hget
  rw [hshown] at hcompared
  have hcompared := hcompared hactual
  have hbounds : (comparing "mean" .atLeast "3").keepsRow meanRow = true ∧
      (comparing "mean" .atMost "3").keepsRow meanRow = true := by decide +kernel
  have hrespelled : Respelled "3.0" "3" := ⟨by decide, hcompared.bounds_iff.1 hbounds⟩
  refine ⟨hvalue, hget, hactual, hcompared, hrespelled, ?_⟩
  rw [Bool.eq_false_iff]
  exact fun hequal => hrespelled.ne (hcompared.equal_iff.1 hequal)

end PipeQuery
