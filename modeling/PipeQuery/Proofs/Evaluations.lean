import PipeQuery.Proofs.ReadBack
import PipeQuery.Proofs.Tallies
import PipeQuery.Stage.Transform

/-!
# Evaluated numbers in aggregations

A transform writes the number that it computes of a record into a field, as
text, and an aggregation reads the number in that text.  Are these the same?

* `unsigned_or_negative_of_evaluate`: the operands of an expression have no
  sign, because a sign is an operation.  So a number that is not negative is a
  count; it is not the negative zero, which would be equal to its magnitude
  and yet another number.
* `numberIn?_shown_eq_iff`: of a number that is written without exponent the
  magnitude is read, of all others something else.
* `Transform.eval_read_back`: what this means for the records of an evaluation
  and for the aggregations of their field.
-/

namespace PipeQuery

/-! ## Numbers without a sign -/

namespace Binary64

/-- Not negative, or NaN. -/
inductive IsUnsigned : Binary64 → Prop
  | nan : IsUnsigned .nan
  | count {x : Binary64} (h : x.IsCount) : IsUnsigned x

theorem isUnsigned_ofFraction (num den : Nat) : (ofFraction false num den).IsUnsigned :=
  .count (isCount_ofFraction num den)

/-- Below zero. -/
def IsNegative (x : Binary64) : Prop := x.lt (zero false) = true

instance (x : Binary64) : Decidable x.IsNegative := inferInstanceAs (Decidable (_ = _))

theorem isNegative_finite (negative : Bool) {units : Nat} (fits : FitsSignificand units)
    (bounded : units < overflowUnits) :
    (finite negative units fits bounded).IsNegative ↔ negative = true ∧ 0 < units := by
  have hzero : (zero false).rank = 0 := rfl
  rw [IsNegative, lt_iff_rank_lt rfl rfl, hzero, rank]
  cases negative <;> simp [signedUnits]

theorem IsCount.not_isNegative {x : Binary64} (h : x.IsCount) : ¬x.IsNegative := by
  cases h with
  | infinite => exact Bool.false_ne_true
  | finite units fits bounded => simp [isNegative_finite]

theorem IsCount.abs_eq {x : Binary64} (h : x.IsCount) : x.abs = x := by
  cases h <;> rfl

/-- A positive whole number of units is not rounded to zero. -/
theorem isNegative_ofFraction {num : Nat} (h : 0 < num) : (ofFraction true num 1).IsNegative := by
  have hone : FitsSignificand 1 := ⟨1, 0, by decide, by decide⟩
  have hpos : 1 ≤ roundToSignificand num 1 :=
    calc 1 = roundToSignificand 1 1 := (roundToSignificand_of_fits hone).symm
      _ ≤ roundToSignificand num 1 := roundToSignificand_mono Nat.one_pos Nat.one_pos (by omega)
  unfold ofFraction
  split
  · exact (isNegative_finite ..).2 ⟨rfl, hpos⟩
  · rfl

/-- An operation that keeps NaN is given by what it does to counts. -/
theorem of_counts {P : Binary64 → Prop} {f : Binary64 → Binary64 → Binary64}
    (hleft : ∀ y, f nan y = nan) (hright : ∀ x, f x nan = nan) (hnan : P nan)
    (hcounts : ∀ {x y : Binary64}, x.IsCount → y.IsCount → P (f x y)) {a b : Binary64}
    (ha : a.IsUnsigned) (hb : b.IsUnsigned) : P (f a b) := by
  cases ha with
  | nan => rwa [hleft]
  | count ha =>
      cases hb with
      | nan => rwa [hright]
      | count hb => exact hcounts ha hb

namespace IsCount

variable {a b : Binary64} (ha : a.IsCount) (hb : b.IsCount)

include ha hb

theorem mul : (Binary64.mul a b).IsUnsigned := by
  cases ha with
  | infinite =>
      cases hb with
      | infinite => exact .count .infinite
      | finite v _ _ =>
          rw [Binary64.mul]
          split
          · exact .nan
          · exact .count .infinite
  | finite u _ _ =>
      cases hb with
      | infinite =>
          rw [Binary64.mul]
          split
          · exact .nan
          · exact .count .infinite
      | finite v _ _ => exact isUnsigned_ofFraction _ _

theorem div : (Binary64.div a b).IsUnsigned := by
  cases ha with
  | infinite =>
      cases hb with
      | infinite => exact .nan
      | finite v _ _ => exact .count .infinite
  | finite u _ _ =>
      cases hb with
      | infinite => exact .count isCount_zero
      | finite v _ _ =>
          rw [Binary64.div]
          split
          · split
            · exact .nan
            · exact .count .infinite
          · exact isUnsigned_ofFraction _ _

/-- A difference may be negative, but it is not the negative zero. -/
theorem sub : (Binary64.sub a b).IsUnsigned ∨ (Binary64.sub a b).IsNegative := by
  show (Binary64.add a b.neg).IsUnsigned ∨ (Binary64.add a b.neg).IsNegative
  cases ha with
  | infinite =>
      cases hb with
      | infinite => exact Or.inl .nan
      | finite v _ _ => exact Or.inl (.count .infinite)
  | finite u _ _ =>
      cases hb with
      | infinite => exact Or.inr rfl
      | finite v _ _ =>
          rw [neg, Binary64.add]
          have hsum : signedUnits false u + signedUnits (!false) v = (u : ℤ) - v := rfl
          rcases lt_trichotomy ((u : ℤ) - v) 0 with h | h | h
          · rw [hsum, if_neg h.ne, decide_eq_true h]
            exact Or.inr (isNegative_ofFraction (Int.natAbs_pos.2 h.ne))
          · rw [hsum, if_pos h]
            exact Or.inl (.count isCount_zero)
          · rw [hsum, if_neg h.ne', decide_eq_false (Int.not_lt.2 h.le)]
            exact Or.inl (isUnsigned_ofFraction _ _)

end IsCount

theorem add_nan (x : Binary64) : Binary64.add x nan = nan := by
  cases x <;> rfl

theorem mul_nan (x : Binary64) : Binary64.mul x nan = nan := by
  cases x <;> rfl

theorem div_nan (x : Binary64) : Binary64.div x nan = nan := by
  cases x <;> rfl

namespace IsUnsigned

variable {a b : Binary64} (ha : a.IsUnsigned) (hb : b.IsUnsigned)

include ha hb

theorem add : (a + b).IsUnsigned :=
  of_counts (f := Binary64.add) (fun _ => rfl) add_nan .nan (fun hx hy => .count (hx.add hy)) ha hb

theorem sub : (a - b).IsUnsigned ∨ (a - b).IsNegative :=
  of_counts (P := fun x => x.IsUnsigned ∨ x.IsNegative) (f := Binary64.sub) (fun _ => rfl)
    add_nan (Or.inl .nan) IsCount.sub ha hb

theorem mul : (a * b).IsUnsigned :=
  of_counts (f := Binary64.mul) (fun _ => rfl) mul_nan .nan IsCount.mul ha hb

theorem div : (a / b).IsUnsigned :=
  of_counts (f := Binary64.div) (fun _ => rfl) div_nan .nan IsCount.div ha hb

end IsUnsigned

end Binary64

/-! ## Operands -/

theorem plainChar_ne_minus {c : Char} (h : c ≠ '-') : plainChar c ≠ '-' := by
  unfold plainChar
  split
  · exact h
  · split
    · decide
    · split
      · next d _ =>
          intro heq
          rw [Char.ofNat] at heq
          by_cases hvalid : (0x30 + d).isValidChar
          · rw [dif_pos hvalid] at heq
            have hcode : 0x30 + d = 0x2d := congrArg Char.toNat heq
            omega
          · rw [dif_neg hvalid] at heq
            cases heq
      · decide

theorem mem_of_mem_dropEndWhile {p : Char → Bool} {cs : List Char} {c : Char}
    (h : c ∈ Text.dropEndWhile p cs) : c ∈ cs :=
  List.mem_reverse.1 ((List.dropWhile_sublist p).mem (List.mem_reverse.1 h))

theorem mem_of_mem_trimWhile {p : Char → Bool} {cs : List Char} {c : Char}
    (h : c ∈ Text.trimWhile p cs) : c ∈ cs := by
  rw [Text.trimWhile] at h
  exact (List.dropWhile_sublist p).mem (mem_of_mem_dropEndWhile h)

theorem notMem_plainText {cs : List Char} (h : '-' ∉ cs) : '-' ∉ plainText cs := by
  intro hmem
  obtain ⟨c, hc, heq⟩ := List.mem_map.1 (mem_of_mem_trimWhile hmem)
  exact plainChar_ne_minus (fun hminus => h (hminus ▸ hc)) heq

theorem mem_of_mem_withoutLowLines? {cs plain : List Char} (h : withoutLowLines? cs = some plain)
    {c : Char} (hc : c ∈ plain) : c ∈ cs := by
  unfold withoutLowLines? at h
  split at h
  · rw [← Option.some.inj h] at hc
    exact (List.mem_filter.1 hc).1
  · cases h

theorem splitSign_of_no_minus {cs : List Char} (h : '-' ∉ cs) : (splitSign cs).1 = false := by
  unfold splitSign
  split
  · exact absurd (List.mem_cons_self ..) h
  · rfl
  · rfl

/-- A text without a minus sign is not read as a negative number. -/
theorem isUnsigned_of_readBinary64? {cs : List Char} (h : '-' ∉ cs) {x : Binary64}
    (hx : readBinary64? cs = some x) : x.IsUnsigned := by
  unfold readBinary64? at hx
  split at hx
  · cases hx
  · next plain hlowLines =>
      have hsign : (splitSign plain).1 = false := splitSign_of_no_minus fun hmem =>
        notMem_plainText h (mem_of_mem_withoutLowLines? hlowLines hmem)
      cases hsplit : splitSign plain with
      | mk negative body =>
          rw [hsplit] at hsign hx
          obtain rfl : negative = false := hsign
          dsimp only at hx
          split at hx
          · rw [← Option.some.inj hx]
            exact .count .infinite
          · split at hx
            · rw [← Option.some.inj hx]
              exact .nan
            · obtain ⟨d, -, rfl⟩ := Option.map_eq_some_iff.1 hx
              exact .count (Binary64.isCount_ofDecimal d)

/-- There is no operator before the first one. -/
theorem not_isOperator_of_splitOperator? {text before after : List Char} {operator : Char}
    (h : splitOperator? text = some (before, operator, after)) :
    ∀ c ∈ before, isOperator c = false := by
  induction text generalizing before with
  | nil => cases h
  | cons c rest ih =>
      rw [splitOperator?] at h
      by_cases hc : isOperator c = true
      · rw [if_pos hc] at h
        cases h
        simp
      · rw [if_neg hc] at h
        obtain ⟨⟨before', operator', after'⟩, hrest, heq⟩ := Option.map_eq_some_iff.1 h
        cases heq
        intro d hd
        rcases List.mem_cons.1 hd with rfl | hd
        · exact Bool.not_eq_true _ ▸ hc
        · exact ih hrest d hd

theorem operate?_unsigned {operator : Char} {left right x : Binary64} (hleft : left.IsUnsigned)
    (hright : right.IsUnsigned) (h : operate? operator left right = some x) :
    x.IsUnsigned ∨ x.IsNegative := by
  unfold operate? at h
  split at h
  · exact Or.inl (Option.some.inj h ▸ hleft.add hright)
  · split at h
    · exact Option.some.inj h ▸ hleft.sub hright
    · split at h
      · exact Or.inl (Option.some.inj h ▸ hleft.mul hright)
      · split at h
        · cases h
        · exact Or.inl (Option.some.inj h ▸ hleft.div hright)

/-- **The operands have no sign**: with a sign, there would be two operators. -/
theorem unsigned_or_negative_of_calculate? {text : List Char} {x : Binary64}
    (h : calculate? text = some x) : x.IsUnsigned ∨ x.IsNegative := by
  unfold calculate? at h
  split at h
  · cases h
  · next before operator after hsplit =>
      split at h
      · cases h
      · next hafter =>
          split at h
          · next left right hleft hright =>
              have hminus : isOperator '-' = true := by decide
              refine operate?_unsigned (isUnsigned_of_readBinary64? (fun hmem => ?_) hleft)
                (isUnsigned_of_readBinary64? (fun hmem => ?_) hright) h
              · rw [not_isOperator_of_splitOperator? hsplit _ (mem_of_mem_trimWhile hmem)] at hminus
                cases hminus
              · exact hafter (List.any_eq_true.2 ⟨'-', mem_of_mem_trimWhile hmem, hminus⟩)
          · cases h

theorem unsigned_or_negative_of_evaluate {expression : String}
    {values : OrderedMap String String} {x : Binary64}
    (h : evaluate expression values = .number x) : x.IsUnsigned ∨ x.IsNegative := by
  unfold evaluate at h
  dsimp only at h
  split at h
  · next y hy =>
      cases h
      exact unsigned_or_negative_of_calculate? hy
  · cases h

/-! ## The texts of numbers -/

namespace Binary64

/-- **The magnitude is read** of the numbers that are written without exponent,
and of no others. -/
theorem numberIn?_shown_eq_iff {x : Binary64} (hfinite : x.isFinite = true) :
    ∃ y, numberIn? x.shown = some y ∧ (y = x.abs ↔ x.IsPlain) := by
  by_cases hplain : x.IsPlain
  · exact ⟨x.abs, numberIn?_shown_of_isPlain hfinite hplain, iff_of_true rfl hplain⟩
  · obtain ⟨y, hy, hne⟩ := numberIn?_shown_of_not_isPlain hfinite hplain
    exact ⟨y, hy, iff_of_false hne hplain⟩

/-- The number itself is read if moreover it is not negative. -/
theorem eq_self_iff {x y : Binary64} (hfinite : x.isFinite = true)
    (hsign : x.IsUnsigned ∨ x.IsNegative) (hy : y.IsCount) (h : y = x.abs ↔ x.IsPlain) :
    y = x ↔ x.IsPlain ∧ ¬x.IsNegative := by
  rcases hsign with hunsigned | hnegative
  · cases hunsigned with
    | nan => cases hfinite
    | count hcount =>
        rw [hcount.abs_eq] at h
        rw [h, and_iff_left hcount.not_isNegative]
  · refine iff_of_false (fun heq => ?_) fun hplain => hplain.2 hnegative
    exact (heq ▸ hy).not_isNegative hnegative

theorem abs_eq_self {x : Binary64} (hfinite : x.isFinite = true)
    (hsign : x.IsUnsigned ∨ x.IsNegative) (hnegative : ¬x.IsNegative) : x.abs = x := by
  cases hsign.resolve_right hnegative with
  | nan => cases hfinite
  | count hcount => exact hcount.abs_eq

end Binary64

/-! ## Tallies of numbers -/

namespace Tally

/-- The tally that has taken some numbers. -/
def ofNumbers (numbers : List Binary64) : Tally := numbers.foldl addNumber start

theorem foldl_addNumber_seen (numbers : List Binary64) (t : Tally) (n : Nat) :
    numbers.foldl addNumber (t.seen n) = (numbers.foldl addNumber t).seen n :=
  List.foldl_hom (fun t => t.seen n) fun t x => (seen_addNumber t x n).symm

/-- An aggregation of numbers is that of the numbers of the field. -/
theorem value_ofRecords {function : FieldFunction} (hfunction : function ≠ .distinct)
    (field : String) (records : List Record) :
    (ofRecords (.ofField function field) records).value (.ofField function field) =
      (ofNumbers (numbersOf field records)).value (.ofField function field) := by
  rw [ofRecords, foldl_add_numbers hfunction, foldl_addNumber_seen, ← ofNumbers]
  cases function with
  | distinct => exact absurd rfl hfunction
  | average => rfl
  | sum => rfl
  | least => rfl
  | greatest => rfl

end Tally

/-! ## Evaluations -/

namespace Transform

/-- What an expression comes to for each record is the finite number at its
place. -/
def Computes (expression : String) (records : List Record) (numbers : List Binary64) : Prop :=
  List.Forall₂ (fun r x => evaluate expression r.fields = .number x ∧ x.isFinite = true) records
    numbers

/-- The number that is computed is written in full into the target. -/
theorem get?_applyRecord_eval {target expression : String} {r : Record} {x : Binary64}
    (h : evaluate expression r.fields = .number x) :
    ((eval target expression).applyRecord r).get? target = some x.shown := by
  have hvalues : (r.fields.mapValues Cell.text).mapValues Cell.shown = r.fields := by
    simp [Cell.shown]
  simp [applyRecord, applyFields, apply, Record.get?, Record.withFields, hvalues, h,
    ExpressionValue.toCell, Cell.shown, Number.shown]

theorem numbersOf_eval {target expression : String} {records : List Record}
    {numbers : List Binary64} (h : Computes expression records numbers)
    (hplain : ∀ x ∈ numbers, x.IsPlain) :
    numbersOf target (records.map (eval target expression).applyRecord) =
      numbers.map Binary64.abs := by
  induction h with
  | nil => rfl
  | @cons r x records numbers hr _ ih =>
      have hread := Binary64.numberIn?_shown_of_isPlain hr.2 (hplain x (List.mem_cons_self ..))
      have hrest := ih fun y hy => hplain y (List.mem_cons_of_mem _ hy)
      rw [numbersOf] at hrest ⊢
      rw [List.map_cons, List.filterMap_cons_some (b := x.abs), hrest, List.map_cons]
      rw [get?_applyRecord_eval hr.1, Option.bind_some, hread]

theorem map_abs_of_computes {expression : String} {records : List Record}
    {numbers : List Binary64} (h : Computes expression records numbers)
    (hnegative : ∀ x ∈ numbers, ¬x.IsNegative) : numbers.map Binary64.abs = numbers := by
  induction h with
  | nil => rfl
  | @cons r x records numbers hr _ ih =>
      have hsign := unsigned_or_negative_of_evaluate hr.1
      rw [List.map_cons, ih fun y hy => hnegative y (List.mem_cons_of_mem _ hy),
        Binary64.abs_eq_self hr.2 hsign (hnegative x (List.mem_cons_self ..))]

/-- The finite number `x` that is computed of a record, written and read back as
`y`. -/
structure ReadBack (target expression : String) (r : Record) (x y : Binary64) : Prop where
  written : ((eval target expression).applyRecord r).get? target = some x.shown
  read : numberIn? x.shown = some y
  /-- The magnitude is read, unless the number is written with an exponent. -/
  magnitude : y = x.abs ↔ x.IsPlain
  unchanged : y = x ↔ x.IsPlain ∧ ¬x.IsNegative

theorem exists_readBack {target expression : String} {r : Record} {x : Binary64}
    (h : evaluate expression r.fields = .number x) (hfinite : x.isFinite = true) :
    ∃ y, ReadBack target expression r x y := by
  obtain ⟨y, hy, hiff⟩ := Binary64.numberIn?_shown_eq_iff hfinite
  have hsign := unsigned_or_negative_of_evaluate h
  exact ⟨y, get?_applyRecord_eval h, hy, hiff,
    Binary64.eq_self_iff hfinite hsign (isCount_of_numberIn? hy) hiff⟩

/-- **Evaluated numbers are read back** by aggregations as their magnitudes, if
they are zero or from 10⁻⁴ to below 10¹⁶ in magnitude, and as other numbers if
not; so they are read back unchanged if moreover they are not negative.  The
aggregations of the target are those of the magnitudes, and of the numbers
themselves if none is negative. -/
theorem eval_read_back (target expression : String) {records : List Record}
    {numbers : List Binary64} (h : Computes expression records numbers) :
    List.Forall₂ (fun r x => ∃ y, ReadBack target expression r x y) records numbers ∧
      ((∀ x ∈ numbers, x.IsPlain) → ∀ function ≠ FieldFunction.distinct,
        let measure := Measure.ofField function target
        let tally := Tally.ofRecords measure (records.map (eval target expression).applyRecord)
        tally.value measure = (Tally.ofNumbers (numbers.map Binary64.abs)).value measure ∧
          ((∀ x ∈ numbers, ¬x.IsNegative) →
            tally.value measure = (Tally.ofNumbers numbers).value measure)) := by
  refine ⟨List.Forall₂.imp (fun r x hr => exists_readBack hr.1 hr.2) h,
    fun hplain function hfunction => ?_⟩
  dsimp only
  rw [Tally.value_ofRecords hfunction, numbersOf_eval h hplain]
  exact ⟨rfl, fun hnegative => by rw [map_abs_of_computes h hnegative]⟩

/-- A record with two numbers. -/
def ofPair (a b : String) : Record :=
  { (default : Record) with fields := .ofList [("a", a), ("b", b)] }

/-- The sum of a ratio and of a great one. -/
theorem ratios_read_back :
    Computes "a / b" [ofPair "7" "2", ofPair "3e9" "0.5"] [.ofRatio 7 2, .ofInt 6000000000] ∧
      List.Forall₂ (fun r x => ∃ y, ReadBack "d" "a / b" r x y)
        [ofPair "7" "2", ofPair "3e9" "0.5"] [.ofRatio 7 2, .ofInt 6000000000] ∧
      (Tally.ofRecords (.ofField .sum "d")
          ([ofPair "7" "2", ofPair "3e9" "0.5"].map (eval "d" "a / b").applyRecord)).value
        (.ofField .sum "d") =
        (Tally.ofNumbers [.ofRatio 7 2, .ofInt 6000000000]).value (.ofField .sum "d") := by
  have h : Computes "a / b" [ofPair "7" "2", ofPair "3e9" "0.5"]
      [.ofRatio 7 2, .ofInt 6000000000] :=
    .cons (by decide +kernel) (.cons (by decide +kernel) .nil)
  have hread := eval_read_back "d" "a / b" h
  exact ⟨h, hread.1, (hread.2 (by decide +kernel) .sum (by decide)).2 (by decide +kernel)⟩

/-- **A negative difference is not read back**: its sign is lost, in the sum too. -/
theorem difference_not_read_back :
    evaluate "a - b" (ofPair "1" "4").fields = .number (.ofInt (-3)) ∧
      (Binary64.ofInt (-3)).isFinite = true ∧
      ((eval "d" "a - b").applyRecord (ofPair "1" "4")).get? "d" = some "-3.0" ∧
      numberIn? "-3.0" = some (.ofInt 3) ∧
      (Binary64.ofInt 3).order? (.ofInt (-3)) = some .gt ∧
      (Tally.ofRecords (.ofField .sum "d") [(eval "d" "a - b").applyRecord (ofPair "1" "4")]).value
        (.ofField .sum "d") = .binary (.ofInt 3) := by
  decide +kernel

end Transform

end PipeQuery
