import PipeQuery.Proofs.ReadBack
import PipeQuery.Proofs.Scores
import PipeQuery.Proofs.Written
import PipeQuery.Stage.Filter

/-!
# Numbers that are shown and read

A cell is shown as text before a filter compares it.  Where the filter reads that text as a
number, nothing of the cell is lost: every number reads back from its text, with its sign and
its exponent.

* `readBinary64?_withSign`: a sign and what begins with a digit are read as a signed decimal.
* `Binary64.readDecimal?_write`: the digits of a number spell its value, with an exponent or
  without.
* `Filter.number?_shown`: a number reads back from its text; a whole number reads as the
  nearest binary64 number.
-/

namespace PipeQuery

theorem isPlainChar_of_isDigit {c : Char} (h : c.isDigit = true) : IsPlainChar c :=
  isPlainChar_of_isNumberChar (Binary64.isNumberChar_of_isDigit h)

/-! ## Signs -/

theorem isPlainChar_of_mem_withSign {cs : List Char} (hplain : ∀ c ∈ cs, IsPlainChar c)
    (negative : Bool) : ∀ c ∈ (Binary64.withSign negative cs).toList, IsPlainChar c := by
  rw [Binary64.withSign, String.toList_ofList]
  cases negative with
  | false => exact hplain
  | true => exact List.forall_mem_cons.2 ⟨⟨by decide, by decide, by decide⟩, hplain⟩

section Signed

variable {first : Char} {rest : List Char} (h : first.isDigit = true)

include h

/-- What begins with a digit is no word. -/
theorem map_toLower_cons_ne (letter : Char) (word : List Char)
    (hletter : isNumberChar letter = false) :
    (first :: rest).map Char.toLower ≠ letter :: word := by
  have hnumber := Binary64.isNumberChar_of_isDigit h
  rw [List.map_cons, toLower_of_isNumberChar hnumber]
  intro heq
  exact ne_of_isNumberChar hnumber hletter (List.cons.inj heq).1

theorem splitSign_withSign (negative : Bool) :
    splitSign (Binary64.withSign negative (first :: rest)).toList = (negative, first :: rest) := by
  have hnumber := Binary64.isNumberChar_of_isDigit h
  rw [Binary64.withSign, String.toList_ofList]
  cases negative with
  | true => rfl
  | false =>
      have hminus : first ≠ '-' := ne_of_isNumberChar hnumber (by decide)
      have hplus : first ≠ '+' := ne_of_isNumberChar hnumber (by decide)
      simp only [Bool.false_eq_true, if_false]
      unfold splitSign
      split <;> simp_all

/-- **A sign and a decimal number** without blanks are read as they are. -/
theorem readBinary64?_withSign (hplain : ∀ c ∈ first :: rest, IsPlainChar c) (negative : Bool) :
    readBinary64? (Binary64.withSign negative (first :: rest)).toList =
      (readDecimal? (first :: rest)).map (Binary64.ofDecimal negative) := by
  have hsigned := isPlainChar_of_mem_withSign hplain negative
  have hinf : (first :: rest).map Char.toLower ≠ ['i', 'n', 'f'] :=
    map_toLower_cons_ne h 'i' _ (by decide)
  have hinfinity : (first :: rest).map Char.toLower ≠ ['i', 'n', 'f', 'i', 'n', 'i', 't', 'y'] :=
    map_toLower_cons_ne h 'i' _ (by decide)
  have hnan : (first :: rest).map Char.toLower ≠ ['n', 'a', 'n'] :=
    map_toLower_cons_ne h 'n' _ (by decide)
  unfold readBinary64?
  rw [plainText_of_plainChars hsigned, withoutLowLines?_of_plainChars hsigned]
  simp only [splitSign_withSign h, beq_eq_false_iff_ne.2 hinf, beq_eq_false_iff_ne.2 hinfinity,
    beq_eq_false_iff_ne.2 hnan, Bool.or_self, Bool.false_eq_true, if_false]

end Signed

namespace Binary64

/-! ## Exponents -/

theorem exponentDigits_ne_nil (e : Int) : exponentDigits e ≠ [] := by
  rw [exponentDigits, ne_eq, List.append_eq_nil_iff, not_and_or]
  exact Or.inr Nat.toDigits_ne_nil

theorem numberOf_exponentDigits (e : Int) : numberOf (exponentDigits e) = e.natAbs := by
  rw [exponentDigits, numberOf_append, numberOf_replicate, numberOf_toDigits, Nat.zero_mul,
    Nat.zero_add]

theorem shownExponent_eq (e : Int) :
    shownExponent e = 'e' :: (if e < 0 then '-' else '+') :: exponentDigits e := rfl

/-- **An exponent reads back.** -/
theorem readExponent?_shownExponent (e : Int) : readExponent? (shownExponent e) = some e := by
  have hsign : splitSign ((if e < 0 then '-' else '+') :: exponentDigits e) =
      (decide (e < 0), exponentDigits e) := by
    by_cases he : e < 0
    · rw [if_pos he, decide_eq_true he]
      rfl
    · rw [if_neg he, decide_eq_false he]
      rfl
  have hdigits : splitDigits (exponentDigits e) = ((exponentDigits e).map digitOf, []) :=
    splitDigits_digits fun c hc => isDigit_of_mem_exponentDigits hc
  have hnumber : ofDigits ((exponentDigits e).map digitOf) = e.natAbs := numberOf_exponentDigits e
  have hne : (exponentDigits e).map digitOf ≠ [] := by
    simpa using exponentDigits_ne_nil e
  rw [shownExponent_eq, readExponent?, if_pos (by decide), hsign]
  simp only [hdigits]
  generalize (exponentDigits e).map digitOf = digits at hnumber hne
  cases digits with
  | nil => exact absurd rfl hne
  | cons d ds =>
      simp only [hnumber]
      split <;> next he =>
        simp only [decide_eq_true_eq] at he
        rw [Option.some.injEq]
        omega

/-! ## Digits -/

/-- Digits with a point behind the first of them and an exponent. -/
theorem readDecimal?_exponent {first : Char} {rest : List Char}
    (h : ∀ c ∈ first :: rest, c.isDigit = true) (e : Int) :
    readDecimal? (first :: ((if rest.isEmpty then [] else '.' :: rest) ++ shownExponent e)) =
      some ⟨numberOf (first :: rest), e - rest.length⟩ := by
  have hfirst : ∀ c ∈ [first], c.isDigit = true := by simpa using h first (List.mem_cons_self ..)
  have hrest : ∀ c ∈ rest, c.isDigit = true := fun c hc => h c (List.mem_cons_of_mem _ hc)
  have hstop : ∀ c ∈ (shownExponent e).head?, c.isDigit = false := by
    intro c hc
    obtain rfl : 'e' = c := Option.some.inj hc
    decide
  have hread := readExponent?_shownExponent e
  cases rest with
  | nil =>
      have hsplit : splitDigits (first :: shownExponent e) = ([digitOf first], shownExponent e) :=
        splitDigits_append hfirst hstop
      simp only [List.isEmpty_nil, if_true, List.nil_append, readDecimal?, hsplit]
      rw [shownExponent_eq] at hread ⊢
      simp [hread, numberOf]
  | cons second rest =>
      have hpoint : splitDigits (first :: '.' :: second :: (rest ++ shownExponent e)) =
          ([digitOf first], '.' :: second :: (rest ++ shownExponent e)) :=
        splitDigits_append hfirst (by simp)
      have hsplit : splitDigits (second :: (rest ++ shownExponent e)) =
          ((second :: rest).map digitOf, shownExponent e) := splitDigits_append hrest hstop
      simp [readDecimal?, hpoint, hsplit, hread, numberOf]

/-- A text that begins with a digit and reads as a decimal of some value. -/
structure SpellsDecimal (text : List Char) (d : Decimal) : Prop where
  digit : ∃ first rest, text = first :: rest ∧ first.isDigit = true
  plain : ∀ c ∈ text, IsPlainChar c
  read : ∃ d' : Decimal, readDecimal? text = some d' ∧
    ∀ negative, ofDecimal negative d' = ofDecimal negative d

theorem isPlainChar_of_mem_shownExponent {e : Int} {c : Char} (hc : c ∈ shownExponent e) :
    IsPlainChar c := by
  rw [shownExponent_eq, List.mem_cons, List.mem_cons] at hc
  rcases hc with rfl | rfl | hc
  · exact ⟨by decide, by decide, by decide⟩
  · split <;> exact ⟨by decide, by decide, by decide⟩
  · exact isPlainChar_of_isDigit (isDigit_of_mem_exponentDigits hc)

theorem Spells.spellsDecimal {d : Decimal} {whole places : List Char} (h : Spells d whole places) :
    SpellsDecimal (whole ++ '.' :: places) d := by
  have hwhole : ∀ c ∈ whole, c.isDigit = true :=
    fun c hc => h.isDigit c (List.mem_append_left _ hc)
  have hplaces : ∀ c ∈ places, c.isDigit = true :=
    fun c hc => h.isDigit c (List.mem_append_right _ hc)
  refine ⟨?_, ?_, _, readDecimal?_point hwhole hplaces h.whole_ne, h.value⟩
  · obtain ⟨first, rest, rfl⟩ := List.exists_cons_of_ne_nil h.whole_ne
    exact ⟨first, _, rfl, hwhole first (List.mem_cons_self ..)⟩
  · intro c hc
    rw [List.mem_append, List.mem_cons] at hc
    rcases hc with hc | rfl | hc
    · exact isPlainChar_of_isDigit (hwhole c hc)
    · exact ⟨by decide, by decide, by decide⟩
    · exact isPlainChar_of_isDigit (hplaces c hc)

theorem Significant.spellsDecimal {d : Decimal} {first : Char} {rest : List Char} {zeros : Nat}
    (h : Significant d first rest zeros) :
    SpellsDecimal
      (first :: ((if rest.isEmpty then [] else '.' :: rest) ++ shownExponent (d.point - 1))) d := by
  refine ⟨⟨first, _, rfl, h.isDigit first (List.mem_cons_self ..)⟩, ?_, _,
    readDecimal?_exponent h.isDigit _, fun negative => ?_⟩
  · intro c hc
    rw [List.mem_cons, List.mem_append] at hc
    rcases hc with rfl | hc | hc
    · exact isPlainChar_of_isDigit (h.isDigit _ (List.mem_cons_self ..))
    · split at hc
      · cases hc
      · rcases List.mem_cons.1 hc with rfl | hc
        · exact ⟨by decide, by decide, by decide⟩
        · exact isPlainChar_of_isDigit (h.isDigit c (List.mem_cons_of_mem _ hc))
    · exact isPlainChar_of_mem_shownExponent hc
  · have heq := h.point_eq
    rw [List.length_cons] at heq
    rw [h.ofDecimal_eq]
    congr 2
    omega

/-- **The digits of a number** spell its value, with an exponent or without. -/
theorem spellsDecimal_write {d : Decimal} (hd : d.digits ≠ 0) :
    SpellsDecimal (fullLayout.write d) d := by
  obtain ⟨first, rest, zeros, h⟩ := exists_significant hd
  by_cases hplain : -3 ≤ d.point ∧ d.point ≤ 16
  · obtain ⟨whole, places, hwrite, hspells⟩ := h.write_plain hplain.1 hplain.2
    rw [hwrite]
    exact hspells.spellsDecimal
  · rw [h.write_exponent (by omega)]
    exact h.spellsDecimal

theorem ofDecimal_zero (negative : Bool) (e : Int) : ofDecimal negative ⟨0, e⟩ = zero negative :=
  if_pos rfl

theorem spells_zero : Spells ⟨0, 0⟩ ['0'] ['0'] where
  isDigit := List.all_eq_true.1 (by decide)
  whole_ne := by decide
  value negative := by
    have hdigits : numberOf (['0'] ++ ['0']) = 0 := by decide
    rw [hdigits, ofDecimal_zero, ofDecimal_zero]

/-- A text without blanks and low lines that is read as a number. -/
structure Shows (text : String) (x : Binary64) : Prop where
  plain : ∀ c ∈ text.toList, IsPlainChar c
  read : readBinary64? text.toList = some x

/-- What spells a decimal shows it, behind a sign. -/
theorem SpellsDecimal.shows {text : List Char} {d : Decimal} (h : SpellsDecimal text d)
    (negative : Bool) : Shows (withSign negative text) (ofDecimal negative d) := by
  obtain ⟨⟨first, rest, rfl, hfirst⟩, hplain, d', hread, hvalue⟩ := h
  refine ⟨isPlainChar_of_mem_withSign hplain negative, ?_⟩
  rw [readBinary64?_withSign hfirst hplain, hread, Option.map_some, hvalue]

/-- **A binary64 number is shown by its text.** -/
theorem shows_shown (x : Binary64) : Shows x.shown x := by
  cases x with
  | nan => exact ⟨forall_mem_of_all (by decide), by decide +kernel⟩
  | infinite negative =>
      cases negative <;> exact ⟨forall_mem_of_all (by decide), by decide +kernel⟩
  | finite negative units fits bounded =>
      rw [shown, written]
      by_cases hunits : units = 0
      · subst hunits
        have hzero := spells_zero.spellsDecimal.shows negative
        rw [ofDecimal_zero] at hzero
        rw [if_pos rfl]
        exact hzero
      · have hpos : 0 < units := Nat.pos_of_ne_zero hunits
        have hshortest := ofDecimal_shortest fits bounded hpos
        obtain ⟨hrange, hvalue⟩ := inRange_of_ofDecimal fits bounded hpos hshortest
        obtain ⟨_, hfinite⟩ := ofFraction_of_lt negative hvalue bounded
        have hshows := (spellsDecimal_write hrange.digits).shows negative
        rw [ofDecimal_eq hrange, hfinite] at hshows
        rw [if_neg hunits]
        exact hshows

/-! ## Whole numbers -/

theorem num_whole (n : Nat) : (⟨n, 0⟩ : Decimal).num = n * unitsPerOne := by
  simp [Decimal.num]

/-- Beyond the range of the format, a whole number is infinite. -/
theorem ofFraction_of_high {n : Nat} (h : 310 < (⟨n, 0⟩ : Decimal).point) (hn : n ≠ 0)
    (negative : Bool) : ofFraction negative (n * unitsPerOne) 1 = infinite negative := by
  have hgreat : overflowUnits ≤ (Decimal.power 310).units := by decide +kernel
  have hunits : roundToSignificand (n * unitsPerOne) 1 = (⟨n, 0⟩ : Decimal).units := by
    rw [Decimal.units, num_whole]
    rfl
  have hle := Decimal.power_le_units (d := ⟨n, 0⟩) hn h
  rw [← hunits] at hle
  exact dif_neg (Nat.not_lt.2 (hgreat.trans hle))

/-- **The digits of a whole number** are read as the nearest binary64 number. -/
theorem ofDecimal_whole (n : Int) : ofDecimal (decide (n < 0)) ⟨n.natAbs, 0⟩ = ofInt n := by
  have hround : ofInt n = ofFraction (decide (n < 0)) (n.natAbs * unitsPerOne) 1 := rfl
  rw [hround]
  by_cases hn : n.natAbs = 0
  · have hsign : decide (n < 0) = false := decide_eq_false (by omega)
    rw [hn, hsign, ofDecimal_zero, Nat.zero_mul, ofFraction_zero]
  · rcases lt_or_ge 310 (⟨n.natAbs, 0⟩ : Decimal).point with hhigh | hlow
    · rw [ofDecimal_of_high hn hhigh, ofFraction_of_high hhigh hn]
    · have hrange : (⟨n.natAbs, 0⟩ : Decimal).InRange := by
        refine ⟨hn, ?_, hlow⟩
        have hpos := decimalLength_pos n.natAbs
        simp only [Decimal.point]
        omega
      rw [ofDecimal_eq hrange, num_whole]
      rfl

theorem shownInt_eq_withSign (n : Int) :
    shownInt n = withSign (decide (n < 0)) (Nat.toDigits 10 n.natAbs) := by
  rw [shownInt, withSign]
  by_cases hn : n < 0
  · rw [if_pos hn, decide_eq_true hn, if_pos rfl, ← String.toList_inj]
    simp
  · rw [if_neg hn, decide_eq_false hn, if_neg Bool.false_ne_true]

/-- A whole number is shown by its text as the nearest binary64 number. -/
theorem shows_shownInt (n : Int) : Shows (shownInt n) (ofInt n) := by
  have hdigits : ∀ c ∈ Nat.toDigits 10 n.natAbs, c.isDigit = true :=
    fun c hc => isDigit_of_mem_toDigits hc
  have hspells : SpellsDecimal (Nat.toDigits 10 n.natAbs) ⟨n.natAbs, 0⟩ := by
    obtain ⟨first, rest, hfirst⟩ := List.exists_cons_of_ne_nil
      (Nat.toDigits_ne_nil (b := 10) (n := n.natAbs))
    refine ⟨⟨first, rest, hfirst, hdigits first (by simp [hfirst])⟩,
      fun c hc => isPlainChar_of_isDigit (hdigits c hc), _,
      readDecimal?_digits hdigits Nat.toDigits_ne_nil, fun negative => ?_⟩
    rw [numberOf_toDigits]
  rw [shownInt_eq_withSign, ← ofDecimal_whole]
  exact hspells.shows _

end Binary64

theorem Number.shows_shown (n : Number) : Binary64.Shows n.shown n.toBinary64 := by
  cases n with
  | integer n => exact Binary64.shows_shownInt n
  | binary x => exact x.shows_shown

/-- **A number reads back from its text**, a whole number as the nearest binary64 number. -/
theorem Filter.number?_shown (n : Number) : number? n.shown = some n.toBinary64 := by
  have hshows := n.shows_shown
  have hlowLine : n.shown.toList.contains '_' = false := by
    rw [Bool.eq_false_iff, ne_eq, List.contains_iff_mem]
    exact fun hmem => (hshows.plain _ hmem).ne_lowLine rfl
  rw [number?, hlowLine, if_neg Bool.false_ne_true, hshows.read]

end PipeQuery
