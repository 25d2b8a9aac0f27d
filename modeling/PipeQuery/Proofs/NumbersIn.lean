import PipeQuery.Proofs.Matches
import PipeQuery.Stage.Arguments

/-!
# The numbers in texts

An aggregation looks only at the digits and the points of a text.  Of the many
forms that a number may be read in, this leaves plain decimals: no sign, no
exponent, no word, no low line and no blank can remain.

* `numberIn?_eq`: the number in a text is the one that its digits and points
  spell, if they spell one.
* `isCount_of_numberIn?`: it is never negative and never NaN.
* `readInteger_of_decimals`: decimal digits of any script are a whole number,
  unless there are too many of them.
-/

namespace PipeQuery

/-- The digits and points of a text. -/
def numberChars (text : String) : List Char := text.toList.filter isNumberChar

/-! ## Plain characters -/

theorem toNat_of_isDigit {c : Char} (h : c.isDigit = true) : 48 ≤ c.toNat ∧ c.toNat ≤ 57 := by
  simp only [Char.isDigit, Bool.and_eq_true, decide_eq_true_eq, ge_iff_le,
    UInt32.le_iff_toNat_le] at h
  exact h

theorem toNat_of_isNumberChar {c : Char} (h : isNumberChar c = true) :
    46 ≤ c.toNat ∧ c.toNat ≤ 57 := by
  simp only [isNumberChar, Bool.or_eq_true, beq_iff_eq] at h
  rcases h with h | rfl
  · have := toNat_of_isDigit h
    omega
  · decide

theorem ne_of_isNumberChar {c : Char} (h : isNumberChar c = true) {d : Char}
    (hd : isNumberChar d = false) : c ≠ d := by
  rintro rfl
  rw [h] at hd
  cases hd

/-- A character that stays as it is when a number is read: ASCII, no blank and no low line. -/
structure IsPlainChar (c : Char) : Prop where
  low : 0x20 < c.toNat
  high : c.toNat < 0x7f
  ne_lowLine : c ≠ '_'

instance (c : Char) : Decidable (IsPlainChar c) :=
  decidable_of_iff (0x20 < c.toNat ∧ c.toNat < 0x7f ∧ c ≠ '_')
    ⟨fun h => ⟨h.1, h.2.1, h.2.2⟩, fun h => ⟨h.low, h.high, h.ne_lowLine⟩⟩

theorem isPlainChar_of_isNumberChar {c : Char} (h : isNumberChar c = true) : IsPlainChar c := by
  have hrange := toNat_of_isNumberChar h
  exact ⟨by omega, by omega, ne_of_isNumberChar h (by decide)⟩

theorem toLower_of_isNumberChar {c : Char} (h : isNumberChar c = true) : c.toLower = c := by
  have hrange := toNat_of_isNumberChar h
  unfold Char.toLower
  refine dif_neg fun hupper => ?_
  simp only [ge_iff_le, UInt32.le_iff_toNat_le] at hupper
  change 65 ≤ c.toNat ∧ _ at hupper
  omega

theorem IsPlainChar.plainChar_eq {c : Char} (h : IsPlainChar c) : plainChar c = c := if_pos h.high

theorem IsPlainChar.isAsciiBlank_eq_false {c : Char} (h : IsPlainChar c) :
    Text.isAsciiBlank c = false := by
  have hlow := h.low
  simp only [Text.isAsciiBlank, Bool.or_eq_false_iff, Bool.and_eq_false_imp, decide_eq_true_eq,
    decide_eq_false_iff_not, beq_eq_false_iff_ne]
  omega

section PlainChars

variable {cs : List Char} (h : ∀ c ∈ cs, IsPlainChar c)

include h

theorem trimWhile_isAsciiBlank : Text.trimWhile Text.isAsciiBlank cs = cs := by
  have hkeep : ∀ (ds : List Char), (∀ c ∈ ds, IsPlainChar c) →
      ds.dropWhile Text.isAsciiBlank = ds := by
    intro ds hds
    cases ds with
    | nil => rfl
    | cons c rest =>
        exact List.dropWhile_cons_of_neg
          (by simp [(hds c (List.mem_cons_self ..)).isAsciiBlank_eq_false])
  rw [Text.trimWhile, hkeep cs h, Text.dropEndWhile,
    hkeep cs.reverse fun c hc => h c (List.mem_reverse.1 hc), List.reverse_reverse]

theorem plainText_of_plainChars : plainText cs = cs := by
  rw [plainText, List.map_congr_left fun c hc => (h c hc).plainChar_eq, List.map_id',
    trimWhile_isAsciiBlank h]

theorem lowLinesJoinDigits_of_plainChars {last : Char} (hlast : last ≠ '_') :
    lowLinesJoinDigits last cs = true := by
  induction cs generalizing last with
  | nil => simpa [lowLinesJoinDigits] using hlast
  | cons c rest ih =>
      have hc : c ≠ '_' := (h c (List.mem_cons_self ..)).ne_lowLine
      simp [lowLinesJoinDigits, hc, hlast, ih (fun d hd => h d (List.mem_cons_of_mem c hd)) hc]

theorem withoutLowLines?_of_plainChars : withoutLowLines? cs = some cs := by
  rw [withoutLowLines?, if_pos (lowLinesJoinDigits_of_plainChars h (by decide)),
    List.filter_eq_self.2 fun c hc => by simpa using (h c hc).ne_lowLine]

end PlainChars

section NumberChars

variable {cs : List Char} (h : ∀ c ∈ cs, isNumberChar c = true)

include h

theorem plainChars_of_numberChars : ∀ c ∈ cs, IsPlainChar c :=
  fun c hc => isPlainChar_of_isNumberChar (h c hc)

theorem splitSign_of_numberChars : splitSign cs = (false, cs) := by
  cases cs with
  | nil => rfl
  | cons c rest =>
      have hc := h c (List.mem_cons_self ..)
      have hminus : c ≠ '-' := ne_of_isNumberChar hc (by decide)
      have hplus : c ≠ '+' := ne_of_isNumberChar hc (by decide)
      unfold splitSign
      split <;> simp_all

/-- No word has only digits and points. -/
theorem map_toLower_ne {word : List Char} (letter : Char) (hletter : letter ∈ word)
    (hlower : isNumberChar letter = false) : cs.map Char.toLower ≠ word := by
  have hsame : cs.map Char.toLower = cs :=
    (List.map_congr_left fun c hc => toLower_of_isNumberChar (h c hc)).trans cs.map_id
  rintro rfl
  rw [hsame] at hletter
  rw [h letter hletter] at hlower
  cases hlower

/-- Digits and points are read as a plain decimal. -/
theorem readBinary64?_of_numberChars :
    readBinary64? cs = (readDecimal? cs).map (Binary64.ofDecimal false) := by
  have hinf : cs.map Char.toLower ≠ ['i', 'n', 'f'] :=
    map_toLower_ne h 'n' (by decide) (by decide)
  have hinfinity : cs.map Char.toLower ≠ ['i', 'n', 'f', 'i', 'n', 'i', 't', 'y'] :=
    map_toLower_ne h 'n' (by decide) (by decide)
  have hnan : cs.map Char.toLower ≠ ['n', 'a', 'n'] :=
    map_toLower_ne h 'n' (by decide) (by decide)
  have hplain := plainChars_of_numberChars h
  simp [readBinary64?, plainText_of_plainChars hplain, withoutLowLines?_of_plainChars hplain,
    splitSign_of_numberChars h, hinf, hinfinity, hnan]

end NumberChars

/-- **The number in a text** is the one that its digits and points spell. -/
theorem numberIn?_eq (text : String) :
    numberIn? text = (readDecimal? (numberChars text)).map (Binary64.ofDecimal false) :=
  readBinary64?_of_numberChars fun _ hc => List.of_mem_filter hc

/-! ## Counts -/

namespace Binary64

theorem isCount_ofDecimal (d : Decimal) : (ofDecimal false d).IsCount := by
  unfold ofDecimal
  split
  · exact isCount_zero
  · split
    · exact .infinite
    · split
      · exact isCount_zero
      · split <;> exact isCount_ofFraction _ _

end Binary64

/-- **No number in a text is negative**, and none is NaN. -/
theorem isCount_of_numberIn? {text : String} {x : Binary64} (h : numberIn? text = some x) :
    x.IsCount := by
  rw [numberIn?_eq, Option.map_eq_some_iff] at h
  obtain ⟨d, _, rfl⟩ := h
  exact Binary64.isCount_ofDecimal d

/-! ## Whole numbers -/

/-- No decimal digit of any script is a blank. -/
theorem decimalRanges_disjoint_blankRanges :
    ∀ digits ∈ Text.decimalRanges, ∀ blanks ∈ Text.blankRanges,
      digits.2 < blanks.1 ∨ blanks.2 < digits.1 := by decide

/-- A decimal digit of any script is put into plain form as a digit. -/
theorem isDigit_plainChar {c : Char} (h : Text.isDecimal c = true) :
    (plainChar c).isDigit = true := by
  unfold plainChar
  split
  · next hlow =>
    have hdecimal : (Text.decimalValue? c).isSome = true := h
    rw [Text.decimalValue?, if_pos (by omega)] at hdecimal
    by_contra hc
    rw [if_neg hc] at hdecimal
    cases hdecimal
  · next hlow =>
    have hhigh : ¬ c.toNat < 0x80 := by
      intro hlt
      have hdecimal : (Text.decimalValue? c).isSome = true := h
      rw [Text.decimalValue?, if_pos hlt] at hdecimal
      have hnot : ¬ c.isDigit = true := fun hc => by
        have := toNat_of_isDigit hc
        omega
      rw [if_neg hnot] at hdecimal
      cases hdecimal
    obtain ⟨d, hd⟩ := Option.isSome_iff_exists.1 h
    rw [hd]
    rw [Text.decimalValue?, if_neg hhigh, Option.map_eq_some_iff] at hd
    obtain ⟨range, hrange, rfl⟩ := hd
    have hmem := List.mem_of_find?_eq_some hrange
    have hin := List.find?_some hrange
    simp only [Bool.and_eq_true, decide_eq_true_eq] at hin
    have hblank : ¬ Text.isBlank c = true := by
      intro hblank
      obtain ⟨blanks, hblanks, hcontains⟩ := List.any_eq_true.1 hblank
      simp only [Bool.and_eq_true, decide_eq_true_eq] at hcontains
      have := decimalRanges_disjoint_blankRanges range hmem blanks hblanks
      omega
    rw [if_neg hblank]
    have hdigit : ∀ d < 10, (Char.ofNat (0x30 + d)).isDigit = true := by decide
    exact hdigit _ (Nat.mod_lt _ (by decide))

/-- **Decimal digits are a whole number**, unless there are too many of them. -/
theorem readInteger_of_decimals {cs : List Char} (hne : cs ≠ [])
    (h : ∀ c ∈ cs, Text.isDecimal c = true) :
    readInteger cs =
      if maxIntegerDigits < cs.length then .error (.tooLong cs.length)
      else .ok (ofDigits ((cs.map plainChar).map digitOf) : Nat) := by
  have hdigits : ∀ c ∈ cs.map plainChar, c.isDigit = true := by
    simp only [List.mem_map]
    rintro _ ⟨c, hc, rfl⟩
    exact isDigit_plainChar (h c hc)
  have hchars : ∀ c ∈ cs.map plainChar, isNumberChar c = true := fun c hc => by
    rw [isNumberChar, hdigits c hc, Bool.true_or]
  have hempty : (cs.map plainChar).isEmpty = false := by simpa using hne
  have hall : (cs.map plainChar).all Char.isDigit = true := List.all_eq_true.2 hdigits
  have hplain := plainChars_of_numberChars hchars
  rw [readInteger, plainText, trimWhile_isAsciiBlank hplain, splitSign_of_numberChars hchars]
  simp only [withoutLowLines?_of_plainChars hplain, hempty, hall, List.length_map,
    Bool.not_true, Bool.or_self, Bool.false_eq_true, if_false]

end PipeQuery
