import PipeQuery.Stage.Transform
import Mathlib.Data.List.SplitBy

/-!
# Names put in as whole words

An expression is calculated after the value of each field has been put in the place of its
name.  This is done for one field after the other, wherever its name occurs in what has come
of the text by then, so a name may be found inside another name or inside a value, and the
order of the fields may show.

Where the names stand apart, none of this happens.  The text is cut into its runs of
characters of names and of other characters (`nameRuns`).

* `Text.replace_append_cons`: a character that is not in a name cuts every text in two parts
  that are treated alone, so putting in goes run by run (`substitute_eq_flatMap`).
* `substitute_name`, `substitute_of_holdsNone`: a name that holds no other name becomes its
  value, and a run that holds no name stays.
* `evaluate_of_wholeWords`: if all runs are of these two kinds and no value has a character
  of a name, all names are put in at once (`putIn`), in whatever order the fields come.
-/

namespace PipeQuery

/-! ## Replacing on both sides of a character -/

namespace Text

variable {part : List Char}

/-- An occurrence that is still being passed takes away what is left of it. -/
theorem replaceFrom_eq_drop (part image : List Char) (skip : Nat) (text : List Char) :
    replaceFrom part image skip text = replaceFrom part image 0 (text.drop skip) := by
  induction text generalizing skip with
  | nil => simp [replaceFrom]
  | cons c rest ih =>
      cases skip with
      | zero => rfl
      | succ k => exact ih k

/-- An occurrence ends before a character that is not in it. -/
theorem prefix_append_cons_iff {c : Char} (hc : c ∉ part) {before after : List Char} :
    part <+: before ++ c :: after ↔ part <+: before := by
  constructor
  · rintro ⟨rest, hrest⟩
    rcases List.append_eq_append_iff.1 hrest with ⟨more, hmore, -⟩ | ⟨more, hmore, hafter⟩
    · exact ⟨more, hmore.symm⟩
    · cases more with
      | nil =>
          rw [List.append_nil] at hmore
          exact hmore ▸ List.prefix_rfl
      | cons d more =>
          obtain ⟨rfl, -⟩ := List.cons.inj hafter
          exact absurd (hmore ▸ List.mem_append_right _ (List.mem_cons_self ..)) hc
  · exact fun h => h.trans (List.prefix_append ..)

theorem isPrefixOf_append_cons {c : Char} (hc : c ∉ part) (before after : List Char) :
    part.isPrefixOf (before ++ c :: after) = part.isPrefixOf before := by
  rw [Bool.eq_iff_iff, List.isPrefixOf_iff_prefix, List.isPrefixOf_iff_prefix,
    prefix_append_cons_iff hc]

theorem replaceFrom_append_cons {c : Char} (hpart : part ≠ []) (hc : c ∉ part)
    (image after : List Char) {skip : Nat} {before : List Char} (hskip : skip ≤ before.length) :
    replaceFrom part image skip (before ++ c :: after) =
      replaceFrom part image skip before ++ c :: replaceFrom part image 0 after := by
  induction before generalizing skip with
  | nil =>
      obtain rfl : skip = 0 := Nat.le_zero.1 hskip
      have hnone : part.isPrefixOf (c :: after) = false := by
        have hnil := isPrefixOf_append_cons hc [] after
        rw [List.nil_append] at hnil
        rw [hnil, Bool.eq_false_iff, ne_eq, List.isPrefixOf_iff_prefix, List.prefix_nil]
        exact hpart
      simp [replaceFrom, hnone]
  | cons d before ih =>
      cases skip with
      | succ k => exact ih (Nat.le_of_succ_le_succ hskip)
      | zero =>
          have hsame := isPrefixOf_append_cons hc (d :: before) after
          rw [List.cons_append] at hsame
          simp only [List.cons_append, replaceFrom, hsame]
          split
          · next hfound =>
            have hlength := (List.isPrefixOf_iff_prefix.1 hfound).length_le
            rw [List.length_cons] at hlength
            rw [ih (by omega), List.append_assoc]
          · rw [ih (Nat.zero_le _), List.cons_append]

/-- **Replacing goes on both sides of a character** that is not in what is replaced. -/
theorem replace_append_cons {c : Char} (hpart : part ≠ []) (hc : c ∉ part)
    (image before after : List Char) :
    replace part image (before ++ c :: after) =
      replace part image before ++ c :: replace part image after :=
  replaceFrom_append_cons hpart hc image after (Nat.zero_le _)

/-- Nothing is replaced in a text where nothing occurs. -/
theorem replace_of_absent {text : List Char} (h : ¬part <:+: text) (image : List Char) :
    replace part image text = text := by
  unfold replace
  induction text with
  | nil => rfl
  | cons c rest ih =>
      have hnone : ¬part.isPrefixOf (c :: rest) = true := fun hfound =>
        h (List.isPrefixOf_iff_prefix.1 hfound).isInfix
      rw [replaceFrom, if_neg hnone,
        ih fun hrest => h (hrest.trans (List.suffix_cons c rest).isInfix)]

/-- A text in its own place is replaced by its image. -/
theorem replace_self (hpart : part ≠ []) (image : List Char) : replace part image part = image := by
  obtain ⟨c, rest, rfl⟩ := List.exists_cons_of_ne_nil hpart
  have hfound : (c :: rest).isPrefixOf (c :: rest) = true :=
    List.isPrefixOf_iff_prefix.2 List.prefix_rfl
  have hdone : replaceFrom (c :: rest) image ((c :: rest).length - 1) rest = [] := by
    rw [replaceFrom_eq_drop, List.length_cons, Nat.add_sub_cancel, List.drop_length]
    rfl
  rw [replace, replaceFrom, if_pos hfound, hdone, List.append_nil]

end Text

/-! ## Putting in run by run -/

/-- The character is in the name of a field. -/
def isNameChar (values : List (String × String)) (c : Char) : Bool :=
  values.any fun e => e.1.toList.contains c

theorem isNameChar_iff {values : List (String × String)} {c : Char} :
    isNameChar values c = true ↔ ∃ e ∈ values, c ∈ e.1.toList := by
  simp [isNameChar]

/-- The maximal runs of characters of names, and of other characters between them. -/
def nameRuns (values : List (String × String)) (text : List Char) : List (List Char) :=
  text.splitBy fun a b => isNameChar values a == isNameChar values b

/-- No name occurs in the text. -/
def HoldsNone (values : List (String × String)) (text : List Char) : Prop :=
  ∀ e ∈ values, e.1 ≠ "" → ¬e.1.toList <:+: text

instance (values : List (String × String)) (text : List Char) : Decidable (HoldsNone values text) :=
  inferInstanceAs (Decidable (∀ e ∈ values, _))

/-- The value of one field put in the place of its name. -/
def putInOne (e : String × String) (text : List Char) : List Char :=
  if e.1.isEmpty then text else Text.replace e.1.toList e.2.toList text

theorem substitute_cons (e : String × String) (values : List (String × String))
    (text : List Char) : substitute text (e :: values) = substitute (putInOne e text) values :=
  rfl

theorem toList_ne_nil {name : String} (h : name ≠ "") : name.toList ≠ [] := by
  simpa using h

theorem putInOne_of_ne {e : String × String} (h : e.1 ≠ "") (text : List Char) :
    putInOne e text = Text.replace e.1.toList e.2.toList text :=
  if_neg (by simpa using h)

theorem putInOne_append_cons {e : String × String} {c : Char} (hc : c ∉ e.1.toList)
    (before after : List Char) :
    putInOne e (before ++ c :: after) = putInOne e before ++ c :: putInOne e after := by
  by_cases hempty : e.1 = ""
  · simp [putInOne, hempty]
  · simp only [putInOne_of_ne hempty]
    exact Text.replace_append_cons (toList_ne_nil hempty) hc ..

/-- A name is not found in a text that does not hold it. -/
theorem putInOne_of_absent {e : String × String} {text : List Char}
    (h : e.1 ≠ "" → ¬e.1.toList <:+: text) : putInOne e text = text := by
  by_cases hempty : e.1 = ""
  · simp [putInOne, hempty]
  · rw [putInOne_of_ne hempty, Text.replace_of_absent (h hempty)]

variable {values : List (String × String)}

theorem substitute_append_cons {c : Char} (hc : isNameChar values c = false)
    (before after : List Char) :
    substitute (before ++ c :: after) values =
      substitute before values ++ c :: substitute after values := by
  induction values generalizing before after with
  | nil => rfl
  | cons e rest ih =>
      simp only [isNameChar, List.any_cons, Bool.or_eq_false_iff] at hc
      simp only [substitute_cons]
      rw [putInOne_append_cons (by simpa using hc.1), ih hc.2]

/-- **A run that holds no name** stays as it is. -/
theorem substitute_of_holdsNone {run : List Char} (h : HoldsNone values run) :
    substitute run values = run := by
  induction values with
  | nil => rfl
  | cons e rest ih =>
      rw [substitute_cons, putInOne_of_absent (h e (List.mem_cons_self ..)),
        ih fun e' he' => h e' (List.mem_cons_of_mem _ he')]

@[simp]
theorem substitute_nil : substitute [] values = [] :=
  substitute_of_holdsNone fun _ _ hne hoccurs => toList_ne_nil hne (List.infix_nil.1 hoccurs)

/-- Two texts are treated alone if the character on one side of the cut is in no name. -/
theorem substitute_append {before after : List Char}
    (h : ∀ a ∈ before.getLast?, ∀ b ∈ after.head?,
      isNameChar values a = false ∨ isNameChar values b = false) :
    substitute (before ++ after) values = substitute before values ++ substitute after values := by
  rcases List.eq_nil_or_concat' before with rfl | ⟨before, a, rfl⟩
  · simp
  · cases after with
    | nil => simp
    | cons b after =>
        rcases h a (by simp) b rfl with ha | hb
        · have hbefore := substitute_append_cons ha before []
          have hboth := substitute_append_cons ha before (b :: after)
          rw [substitute_nil] at hbefore
          rw [List.append_assoc, List.singleton_append, hboth, hbefore, List.append_assoc,
            List.singleton_append]
        · have hafter := substitute_append_cons hb [] after
          rw [substitute_nil, List.nil_append, List.nil_append] at hafter
          rw [substitute_append_cons hb, hafter]

/-- **Putting in goes run by run.** -/
theorem substitute_eq_flatMap (values : List (String × String)) (text : List Char) :
    substitute text values = (nameRuns values text).flatMap fun run => substitute run values := by
  have hchain := List.isChain_getLast_head_splitBy
    (fun a b => isNameChar values a == isNameChar values b) text
  have hflatten : (nameRuns values text).flatten = text := List.flatten_splitBy ..
  change (nameRuns values text).IsChain _ at hchain
  generalize nameRuns values text = runs at hchain hflatten
  subst hflatten
  induction runs with
  | nil => simp
  | cons run rest ih =>
      rw [List.flatten_cons, List.flatMap_cons, substitute_append, ih hchain.tail]
      intro a ha b hb
      cases rest with
      | nil => simp at hb
      | cons next rest =>
          obtain ⟨hrun, hnext, hdifferent⟩ := (List.isChain_cons_cons.1 hchain).1
          rw [List.getLast?_eq_getLast_of_ne_nil hrun, Option.mem_some_iff] at ha
          rw [List.flatten_cons, List.head?_append_of_ne_nil _ hnext,
            List.head?_eq_some_head hnext, Option.mem_some_iff] at hb
          subst ha hb
          cases hlast : isNameChar values (run.getLast hrun) with
          | false => exact Or.inl rfl
          | true =>
              rw [hlast] at hdifferent
              exact Or.inr (by simpa using hdifferent)

/-! ## Names that stand apart -/

/-- A text without characters of names holds no name. -/
theorem holdsNone_of_plain {text : List Char} (h : ∀ c ∈ text, isNameChar values c = false) :
    HoldsNone values text := by
  intro e he hne hoccurs
  obtain ⟨c, rest, hname⟩ := List.exists_cons_of_ne_nil (toList_ne_nil hne)
  have hc : c ∈ e.1.toList := hname ▸ List.mem_cons_self ..
  have hchar : isNameChar values c = true := isNameChar_iff.2 ⟨e, he, hc⟩
  rw [h c (hoccurs.subset hc)] at hchar
  cases hchar

/-- No other name occurs in the name. -/
def HoldsNoOther (values : List (String × String)) (name : String) : Prop :=
  ∀ e ∈ values, e.1 ≠ "" → e.1.toList <:+: name.toList → e.1 = name

/-- The run is a name that holds no other name, or it holds no name at all. -/
def StandsApart (values : List (String × String)) (run : List Char) : Prop :=
  (∃ e ∈ values, e.1.toList = run ∧ HoldsNoOther values e.1) ∨ HoldsNone values run

instance (values : List (String × String)) (name : String) :
    Decidable (HoldsNoOther values name) :=
  inferInstanceAs (Decidable (∀ e ∈ values, _))

instance (values : List (String × String)) (run : List Char) :
    Decidable (StandsApart values run) :=
  inferInstanceAs (Decidable (_ ∨ _))

/-- **A name that holds no other** becomes the value of its field. -/
theorem substitute_name (hnodup : (values.map Prod.fst).Nodup) {e : String × String}
    (hmem : e ∈ values) (hne : e.1 ≠ "") (halone : HoldsNoOther values e.1)
    (hplain : HoldsNone values e.2.toList) : substitute e.1.toList values = e.2.toList := by
  induction values with
  | nil => cases hmem
  | cons first rest ih =>
      rw [List.map_cons, List.nodup_cons] at hnodup
      have hrest : ∀ {e'}, e' ∈ rest → e' ∈ first :: rest := fun he' => List.mem_cons_of_mem _ he'
      rw [substitute_cons]
      rcases List.mem_cons.1 hmem with rfl | hmem
      · rw [putInOne_of_ne hne, Text.replace_self (toList_ne_nil hne)]
        exact substitute_of_holdsNone fun e' he' => hplain e' (hrest he')
      · have hother : first.1 ≠ "" → ¬first.1.toList <:+: e.1.toList := by
          intro hfirst hoccurs
          have hsame := halone first (List.mem_cons_self ..) hfirst hoccurs
          exact hnodup.1 (hsame ▸ List.mem_map_of_mem hmem)
        rw [putInOne_of_absent hother]
        exact ih hnodup.2 hmem (fun e' he' => halone e' (hrest he'))
          fun e' he' => hplain e' (hrest he')

/-- Every run that is the name of a field replaced by its value, all at once. -/
def putIn (values : OrderedMap String String) (text : List Char) : List Char :=
  (nameRuns values.entries text).flatMap fun run =>
    ((values.get? (String.ofList run)).map String.toList).getD run

/-- The values have no character of a name. -/
def HasPlainValues (values : OrderedMap String String) : Prop :=
  ∀ e ∈ values.entries, ∀ c ∈ e.2.toList, isNameChar values.entries c = false

/-- In the expression, every run of characters of names stands apart. -/
def HasWholeWords (values : OrderedMap String String) (expression : String) : Prop :=
  ∀ run ∈ nameRuns values.entries expression.toList,
    (∀ c ∈ run, isNameChar values.entries c = true) → StandsApart values.entries run

instance (values : OrderedMap String String) : Decidable (HasPlainValues values) :=
  decidable_of_iff
    ((values.entries.all fun e => e.2.toList.all fun c => !isNameChar values.entries c) = true)
    (by simp [HasPlainValues])

instance (values : OrderedMap String String) (expression : String) :
    Decidable (HasWholeWords values expression) :=
  decidable_of_iff
    (∀ run ∈ nameRuns values.entries expression.toList,
      run.all (isNameChar values.entries) = true → StandsApart values.entries run)
    (by simp [HasWholeWords])

section Runs

variable {text run : List Char} (hrun : run ∈ nameRuns values text)

include hrun

theorem ne_nil_of_mem_nameRuns : run ≠ [] := List.ne_nil_of_mem_splitBy hrun

/-- The characters of a run are all of one kind. -/
theorem isNameChar_eq_of_mem_run {c d : Char} (hc : c ∈ run) (hd : d ∈ run) :
    isNameChar values c = isNameChar values d := by
  have hchain := List.isChain_of_mem_splitBy hrun
  have htrans : IsTrans Char fun a b => isNameChar values a = isNameChar values b :=
    ⟨fun _ _ _ => Eq.trans⟩
  have hsymm : Std.Symm fun a b => isNameChar values a = isNameChar values b :=
    ⟨fun _ _ => Eq.symm⟩
  have hpairs : run.Pairwise fun a b => isNameChar values a = isNameChar values b :=
    (hchain.imp fun a b => by simp).pairwise
  exact List.Pairwise.forall_of_forall (R := fun a b => isNameChar values a = isNameChar values b)
    (fun _ _ => rfl) hpairs hc hd

/-- Between the runs of characters of names there are no names. -/
theorem standsApart_of_plain (hplain : ¬∀ c ∈ run, isNameChar values c = true) :
    StandsApart values run := by
  obtain ⟨d, hd, hdplain⟩ : ∃ d ∈ run, isNameChar values d = false := by simpa using hplain
  refine Or.inr (holdsNone_of_plain fun c hc => ?_)
  rw [isNameChar_eq_of_mem_run hrun hc hd, hdplain]

end Runs

variable {values : OrderedMap String String}

/-- A run that stands apart becomes what it becomes when all names are put in at once. -/
theorem substitute_standsApart {run : List Char} (hne : run ≠ [])
    (hrun : StandsApart values.entries run) (hvalues : HasPlainValues values) :
    substitute run values.entries =
      ((values.get? (String.ofList run)).map String.toList).getD run := by
  rcases hrun with ⟨e, he, rfl, halone⟩ | hnone
  · have hget : values.get? (String.ofList e.1.toList) = some e.2 := by
      rw [String.ofList_toList]
      exact OrderedMap.get?_eq_some_iff.2 he
    have hname : e.1 ≠ "" := fun hempty => hne (by rw [hempty]; rfl)
    rw [substitute_name values.nodup he hname halone (holdsNone_of_plain (hvalues e he)), hget]
    rfl
  · have hget : values.get? (String.ofList run) = none := by
      refine Option.eq_none_iff_forall_ne_some.2 fun value hvalue => ?_
      have hmem := OrderedMap.get?_eq_some_iff.1 hvalue
      exact hnone _ hmem (by simpa using hne) (by simp)
    rw [substitute_of_holdsNone hnone, hget, Option.map_none, Option.getD_none]

/-- **Names that stand apart are put in at once.** -/
theorem substitute_eq_putIn {expression : String} (hvalues : HasPlainValues values)
    (hwords : HasWholeWords values expression) :
    substitute expression.toList values.entries = putIn values expression.toList := by
  rw [substitute_eq_flatMap, putIn]
  refine List.flatMap_congr fun run hrun => ?_
  have hapart : StandsApart values.entries run := by
    by_cases hchars : ∀ c ∈ run, isNameChar values.entries c = true
    · exact hwords run hrun hchars
    · exact standsApart_of_plain hrun hchars
  exact substitute_standsApart (ne_nil_of_mem_nameRuns hrun) hapart hvalues

/-! ## The order of the fields -/

section Order

variable {reordered : OrderedMap String String} (h : reordered.entries.Perm values.entries)

include h

theorem isNameChar_of_perm : isNameChar reordered.entries = isNameChar values.entries := by
  funext c
  rw [Bool.eq_iff_iff, isNameChar_iff, isNameChar_iff]
  simp only [h.mem_iff]

theorem nameRuns_of_perm (text : List Char) :
    nameRuns reordered.entries text = nameRuns values.entries text := by
  rw [nameRuns, isNameChar_of_perm h]
  rfl

theorem get?_of_perm (key : String) : reordered.get? key = values.get? key :=
  Option.ext fun value => by
    rw [OrderedMap.get?_eq_some_iff, OrderedMap.get?_eq_some_iff, h.mem_iff]

theorem putIn_of_perm (text : List Char) : putIn reordered text = putIn values text := by
  rw [putIn, putIn, nameRuns_of_perm h]
  simp only [get?_of_perm h]

theorem HasPlainValues.of_perm (hvalues : HasPlainValues values) : HasPlainValues reordered := by
  intro e he
  rw [isNameChar_of_perm h]
  exact hvalues e (h.mem_iff.1 he)

theorem StandsApart.of_perm {run : List Char} (hrun : StandsApart values.entries run) :
    StandsApart reordered.entries run := by
  rcases hrun with ⟨e, he, hname, halone⟩ | hnone
  · exact Or.inl ⟨e, h.mem_iff.2 he, hname, fun e' he' => halone e' (h.mem_iff.1 he')⟩
  · exact Or.inr fun e he => hnone e (h.mem_iff.1 he)

theorem HasWholeWords.of_perm {expression : String} (hwords : HasWholeWords values expression) :
    HasWholeWords reordered expression := by
  intro run hrun hchars
  rw [nameRuns_of_perm h] at hrun
  rw [isNameChar_of_perm h] at hchars
  exact (hwords run hrun hchars).of_perm h

end Order

/-- **Whole words**: where the names in an expression stand apart and no value has a
character of a name, every name is replaced by its value at once, and the value of the
expression does not depend on the order of the fields. -/
theorem evaluate_of_wholeWords {expression : String} (hvalues : HasPlainValues values)
    (hwords : HasWholeWords values expression) :
    substitute expression.toList values.entries = putIn values expression.toList ∧
      ∀ reordered : OrderedMap String String, reordered.entries.Perm values.entries →
        evaluate expression reordered = evaluate expression values := by
  refine ⟨substitute_eq_putIn hvalues hwords, fun reordered hperm => ?_⟩
  have htext : substitute expression.toList reordered.entries =
      substitute expression.toList values.entries := by
    rw [substitute_eq_putIn (hvalues.of_perm hperm) (hwords.of_perm hperm), putIn_of_perm hperm,
      ← substitute_eq_putIn hvalues hwords]
  rw [evaluate, evaluate, htext]

/-- Three fields, of which one has the name of another inside its own. -/
def hitsAndMisses : OrderedMap String String :=
  .ofList [("hits", "9"), ("hits_missed", "1 0"), ("misses", "3")]

theorem evaluate_hitsAndMisses :
    HasPlainValues hitsAndMisses ∧ HasWholeWords hitsAndMisses "hits / misses" ∧
      putIn hitsAndMisses "hits / misses".toList = "9 / 3".toList ∧
      ∀ reordered : OrderedMap String String, reordered.entries.Perm hitsAndMisses.entries →
        evaluate "hits / misses" reordered = .number (.ofInt 3) := by
  have hvalues : HasPlainValues hitsAndMisses := by decide +kernel
  have hwords : HasWholeWords hitsAndMisses "hits / misses" := by decide +kernel
  have hvalue : evaluate "hits / misses" hitsAndMisses = .number (.ofInt 3) := by decide +kernel
  obtain ⟨htext, horder⟩ := evaluate_of_wholeWords hvalues hwords
  refine ⟨hvalues, hwords, htext.symm.trans (by decide), fun reordered hperm => ?_⟩
  rw [horder reordered hperm, hvalue]

end PipeQuery
