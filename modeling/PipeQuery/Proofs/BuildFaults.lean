import Mathlib.Data.List.TakeWhile
import PipeQuery.Proofs.Building
import PipeQuery.Proofs.NumbersIn
import PipeQuery.Proofs.Written
import PipeQuery.Platform.Standard
import PipeQuery.Query.Reader

/-!
# What building a query can fail with

A stage that does not build is refused: its command is unknown, its arguments
are wrong, or its pattern is (`Fault.isRefusal`).  Three kinds of stages slip
through and fail with something else (`StageSpec.Strays`):

* a transform with a pattern, one of whose keywords is its last argument, so
  that there is nothing behind it;
* a filter or a transform with a pattern that is not read, although no fault of
  it is one to be refused (`Pattern.Strays`): it is nested too deeply for the
  stack, asks for more repetitions than can be counted, spells a number of
  repetitions with more digits than a number may have, or asks for both
  repertoires of characters;
* a chart over time whose span has more digits than a number may have.

There are no others: `stray_faults_of_building` says that building fails with
something else than a refusal if and only if the leftmost stage that does not
build is one of them.
-/

namespace PipeQuery

/-- The fault refuses a stage: its command, its arguments or its pattern. -/
def Fault.isRefusal : Fault → Bool
  | argument _ | unknownCommand _ | invalidPattern .. => true
  | _ => false

/-- What it comes to is no answer and no refusal. -/
def StraysWith {α : Type} (x : Except Fault α) (fault : Fault) : Prop :=
  x = .error fault ∧ fault.isRefusal = false

section StraysWith

variable {α β : Type} {fault : Fault}

theorem straysWith_map {f : α → β} {x : Except Fault α} :
    StraysWith (x.map f) fault ↔ StraysWith x fault := by
  cases x with
  | ok a => exact iff_of_false (by rintro ⟨h, _⟩; cases h) (by rintro ⟨h, _⟩; cases h)
  | error fault' =>
      refine and_congr_left' ⟨?_, ?_⟩
      · intro h
        cases h
        rfl
      · intro h
        cases h
        rfl

theorem not_straysWith_ok {a : α} : ¬ StraysWith (.ok a) fault := by
  rintro ⟨h, _⟩
  cases h

theorem not_straysWith_refusal {refusal : Fault} (h : refusal.isRefusal = true) :
    ¬ StraysWith (.error refusal : Except Fault α) fault := by
  rintro ⟨hfault, hstray⟩
  cases hfault
  rw [h] at hstray
  cases hstray

end StraysWith

/-! ## Patterns -/

section Patterns

variable [Platform]

/-- The pattern is not read, and is not refused. -/
inductive Pattern.Strays (source : String) : PipeQuery.Fault → Prop
  | tooDeep (deep : Platform.outgrownBy source = true) : Strays source .tooDeep
  | repeatTooLarge (shallow : Platform.outgrownBy source = false)
      (hparse : parse source = .error .repeatTooLarge) : Strays source .repeatTooLarge
  | countTooLong {digits : String} (shallow : Platform.outgrownBy source = false)
      (hparse : parse source = .error (.countTooLong digits)) :
      Strays source (.integer digits (.tooLong digits.length))
  | bothRepertoires (shallow : Platform.outgrownBy source = false)
      (hparse : parse source = .error .bothRepertoires) : Strays source .bothRepertoires

theorem Pattern.read_of_deep {source : String} (deep : Platform.outgrownBy source = true) :
    read source = .error .tooDeep := by
  rw [read, if_pos deep]

theorem Pattern.read_of_parse_error {source : String} {fault : Pattern.Fault}
    (shallow : Platform.outgrownBy source = false) (hparse : parse source = .error fault) :
    read source = .error (.fault fault) := by
  rw [read, if_neg (by simp [shallow]), hparse]

theorem Pattern.strays_of_readFor {stage source : String} {fault : PipeQuery.Fault}
    (h : StraysWith (readFor stage source) fault) : Strays source fault := by
  unfold readFor at h
  cases deep : Platform.outgrownBy source with
  | true =>
      rw [read_of_deep deep] at h
      cases h.1
      exact .tooDeep deep
  | false =>
      cases hparse : parse source with
      | ok p =>
          rw [read, if_neg (by simp [deep]), hparse] at h
          exact absurd h not_straysWith_ok
      | error reason =>
          rw [read_of_parse_error deep hparse] at h
          cases reason with
          | invalid cause position => exact absurd h (not_straysWith_refusal rfl)
          | repeatTooLarge =>
              cases h.1
              exact .repeatTooLarge deep hparse
          | countTooLong digits =>
              cases h.1
              exact .countTooLong deep hparse
          | bothRepertoires =>
              cases h.1
              exact .bothRepertoires deep hparse

theorem Pattern.straysWith_readFor_iff {stage source : String} {fault : PipeQuery.Fault} :
    StraysWith (readFor stage source) fault ↔ Strays source fault := by
  refine ⟨strays_of_readFor, fun h => ?_⟩
  unfold readFor
  cases h with
  | tooDeep deep =>
      rw [read_of_deep deep]
      exact ⟨rfl, rfl⟩
  | repeatTooLarge shallow hparse =>
      rw [read_of_parse_error shallow hparse]
      exact ⟨rfl, rfl⟩
  | countTooLong shallow hparse =>
      rw [read_of_parse_error shallow hparse]
      exact ⟨rfl, rfl⟩
  | bothRepertoires shallow hparse =>
      rw [read_of_parse_error shallow hparse]
      exact ⟨rfl, rfl⟩

end Patterns

/-! ## Filters -/

/-- The pattern that a filter is asked to look for, as it is written. -/
def StageSpec.filterPattern? (spec : StageSpec) : Option String :=
  match spec.args with
  | _ :: operator :: first :: rest =>
    (PatternTest.named? (Text.lower operator)).map fun _ => unquote (Text.join " " (first :: rest))
  | _ => none

namespace Filter

/-- No operator is both a comparison and a test of a pattern. -/
theorem named?_eq_none_of_patternTest {operator : String} {test : PatternTest}
    (h : PatternTest.named? operator = some test) : Comparison.named? operator = none := by
  have hname : test.name = operator := by simpa using List.find?_some h
  rw [← hname]
  cases test <;> decide

theorem create_straysWith_iff [Platform] {field operator value : String} {fault : Fault} :
    StraysWith (create field operator value) fault ↔
      (PatternTest.named? (Text.lower operator)).isSome = true ∧ Pattern.Strays value fault := by
  unfold create
  generalize Text.lower operator = sign
  dsimp only
  cases hcomparison : Comparison.named? sign with
  | some c =>
      refine iff_of_false not_straysWith_ok ?_
      rintro ⟨htest, _⟩
      obtain ⟨test, htest⟩ := Option.isSome_iff_exists.1 htest
      rw [named?_eq_none_of_patternTest htest] at hcomparison
      cases hcomparison
  | none =>
      cases PatternTest.named? sign with
      | none => exact iff_of_false (not_straysWith_refusal rfl) (by simp)
      | some test =>
          refine straysWith_map.trans (Pattern.straysWith_readFor_iff.trans ?_)
          simp

theorem build_straysWith_iff [Platform] {spec : StageSpec} {fault : Fault} :
    StraysWith (build spec) fault ↔
      ∃ source, spec.filterPattern? = some source ∧ Pattern.Strays source fault := by
  have hrefused (hpattern : spec.filterPattern? = none)
      (hbuild : build spec = .error (.argument .filterArguments)) :
      StraysWith (build spec) fault ↔
        ∃ source, spec.filterPattern? = some source ∧ Pattern.Strays source fault := by
    rw [hbuild, hpattern]
    exact iff_of_false (not_straysWith_refusal rfl) fun ⟨_, hsource, _⟩ => nomatch hsource
  obtain ⟨command, args, params⟩ := spec
  rcases args with _ | ⟨field, _ | ⟨operator, _ | ⟨first, rest⟩⟩⟩
  · exact hrefused rfl rfl
  · exact hrefused rfl rfl
  · exact hrefused rfl rfl
  · show StraysWith (create field operator (unquote (Text.join " " (first :: rest)))) fault ↔ _
    rw [create_straysWith_iff]
    cases htest : PatternTest.named? (Text.lower operator) with
    | none => simp [StageSpec.filterPattern?, htest]
    | some test => simp [StageSpec.filterPattern?, htest]

end Filter

/-! ## Transforms -/

namespace Transform

/-- The arguments of a transform with a pattern: `regex` stands at place `i`
and the word in front of the last part at place `j`. -/
structure PatternForm (closing : String) (args : List String) (i j : Nat) : Prop where
  length : 6 ≤ args.length
  regex : keywordIndex? "regex" args = some i
  closing : keywordIndex? closing args = some j

/-- How the arguments of a transform with a pattern slip through. -/
inductive Slips [Platform] (closing : String) (args : List String) : Fault → Prop
  /-- Nothing stands behind a keyword. -/
  | keywordLast {i j : Nat} (form : PatternForm closing args i j)
      (last : i + 1 = args.length ∨ j + 1 = args.length) : Slips closing args .beyondEnd
  /-- The pattern does. -/
  | pattern {i j : Nat} {source target : String} {fault : Fault}
      (form : PatternForm closing args i j) (hsource : args[i + 1]? = some source)
      (htarget : args[j + 1]? = some target) (strays : Pattern.Strays source fault) :
      Slips closing args fault

theorem keywordIndex?_lt {keyword : String} {args : List String} {i : Nat}
    (h : keywordIndex? keyword args = some i) : i < args.length := by
  obtain ⟨hlt, _⟩ := List.findIdx?_eq_some_iff_getElem.1 h
  exact hlt

theorem argAfter_of_some {args : List String} {i : Nat} {arg : String}
    (h : args[i + 1]? = some arg) : argAfter args i = .ok arg := by
  rw [argAfter, h]

theorem argAfter_of_none {args : List String} {i : Nat} (h : args[i + 1]? = none) :
    argAfter args i = .error .beyondEnd := by
  rw [argAfter, h]

/-- Arguments of the form are taken by the places of the keywords. -/
theorem patternArgs_of_form [Platform] (operation : String) {closing : String}
    {args : List String} {i j : Nat} (h : PatternForm closing args i j) :
    ∃ field, args[1]? = some field ∧ patternArgs operation closing args =
      (argAfter args i).bind fun source => (argAfter args j).bind fun last =>
        (Pattern.readFor stageName source).map fun pattern => (field, pattern, last) := by
  have hlength := h.length
  refine ⟨args[1], List.getElem?_eq_getElem (by omega), ?_⟩
  unfold patternArgs
  rw [h.regex, h.closing, List.getElem?_eq_getElem (by omega)]
  dsimp only
  rw [if_neg (by omega)]
  cases argAfter args i with
  | error fault => rfl
  | ok source =>
      cases argAfter args j with
      | error fault => rfl
      | ok last => cases Pattern.readFor stageName source <;> rfl

/-- Arguments that are not of the form are refused. -/
theorem patternArgs_of_not_form [Platform] {operation closing : String} {args : List String}
    (h : ∀ i j, ¬ PatternForm closing args i j) :
    patternArgs operation closing args = misuse operation := by
  unfold patternArgs
  split
  · next field i j _ hregex hclosing =>
    exact if_pos (by
      by_contra hlength
      exact h i j ⟨by omega, hregex, hclosing⟩)
  · rfl

theorem lt_of_getElem?_eq_none {args : List String} {i : Nat} (hi : i < args.length)
    (h : args[i + 1]? = none) : i + 1 = args.length := by
  have := List.getElem?_eq_none_iff.1 h
  omega

theorem slips_of_straysWith [Platform] {operation closing : String} {args : List String}
    {fault : Fault} (h : StraysWith (patternArgs operation closing args) fault) :
    Slips closing args fault := by
  by_cases hform : ∃ i j, PatternForm closing args i j
  · obtain ⟨i, j, form⟩ := hform
    obtain ⟨field, -, hargs⟩ := patternArgs_of_form operation form
    rw [hargs] at h
    cases hsource : args[i + 1]? with
    | none =>
        rw [argAfter_of_none hsource] at h
        cases h.1
        exact .keywordLast form (.inl (lt_of_getElem?_eq_none (keywordIndex?_lt form.regex) hsource))
    | some source =>
        rw [argAfter_of_some hsource] at h
        cases htarget : args[j + 1]? with
        | none =>
            rw [argAfter_of_none htarget] at h
            cases h.1
            exact .keywordLast form
              (.inr (lt_of_getElem?_eq_none (keywordIndex?_lt form.closing) htarget))
        | some target =>
            rw [argAfter_of_some htarget] at h
            exact .pattern form hsource htarget
              (Pattern.straysWith_readFor_iff.1 (straysWith_map.1 h))
  · rw [patternArgs_of_not_form fun i j form => hform ⟨i, j, form⟩] at h
    exact absurd h (not_straysWith_refusal rfl)

theorem straysWith_of_slips [Platform] {operation closing : String} {args : List String}
    {fault : Fault} (h : Slips closing args fault) :
    StraysWith (patternArgs operation closing args) fault := by
  cases h with
  | @keywordLast i j form last =>
      obtain ⟨field, -, hargs⟩ := patternArgs_of_form operation form
      rw [hargs]
      refine ⟨?_, rfl⟩
      cases hsource : args[i + 1]? with
      | none => rw [argAfter_of_none hsource]; rfl
      | some source =>
          have hi : i + 1 < args.length := (List.getElem?_eq_some_iff.1 hsource).1
          have htarget : args[j + 1]? = none := List.getElem?_eq_none (by omega)
          rw [argAfter_of_some hsource, argAfter_of_none htarget]
          rfl
  | pattern form hsource htarget strays =>
      obtain ⟨field, -, hargs⟩ := patternArgs_of_form operation form
      rw [hargs, argAfter_of_some hsource, argAfter_of_some htarget]
      exact straysWith_map.2 (Pattern.straysWith_readFor_iff.2 strays)

theorem patternArgs_straysWith_iff [Platform] {operation closing : String} {args : List String}
    {fault : Fault} :
    StraysWith (patternArgs operation closing args) fault ↔ Slips closing args fault :=
  ⟨slips_of_straysWith, straysWith_of_slips⟩

/-- The word in front of the last part, if the operation takes a pattern. -/
def closing? (args : List String) : Option String :=
  match args.head?.map Text.lower with
  | some "extract" => some "as"
  | some "replace" => some "with"
  | _ => none

theorem not_straysWith_buildMerge {spec : StageSpec} {fault : Fault} :
    ¬ StraysWith (buildMerge spec) fault := by
  unfold buildMerge
  split
  · split
    · exact not_straysWith_refusal rfl
    · split
      · exact not_straysWith_ok
      · exact not_straysWith_refusal rfl
  · exact not_straysWith_refusal rfl

theorem not_straysWith_buildEval {spec : StageSpec} {fault : Fault} :
    ¬ StraysWith (buildEval spec) fault := by
  unfold buildEval
  split
  · split
    · exact not_straysWith_ok
    · exact not_straysWith_refusal rfl
  · split
    · exact not_straysWith_ok
    · exact not_straysWith_refusal rfl
  · exact not_straysWith_refusal rfl

theorem build_straysWith_iff [Platform] {spec : StageSpec} {fault : Fault} :
    StraysWith (build spec) fault ↔
      ∃ closing, closing? spec.args = some closing ∧ Slips closing spec.args fault := by
  unfold build closing?
  split
  · next hargs => exact iff_of_false (not_straysWith_refusal rfl) (by simp [hargs])
  · next first rest hargs =>
    have hhead : spec.args.head?.map Text.lower = some (Text.lower first) := by rw [hargs]; rfl
    rw [hhead]
    split
    · next hname =>
      rw [hname]
      refine iff_of_false ?_ (by simp)
      split
      · split
        · exact not_straysWith_ok
        · exact not_straysWith_refusal rfl
      · exact not_straysWith_refusal rfl
    · next hname =>
      rw [hname]
      refine (straysWith_map
        (f := fun p : String × Pattern × String => extract p.1 p.2.1 p.2.2)).trans ?_
      simp [patternArgs_straysWith_iff]
    · next hname =>
      rw [hname]
      refine (straysWith_map
        (f := fun p : String × Pattern × String => replace p.1 p.2.1 p.2.2)).trans ?_
      simp [patternArgs_straysWith_iff]
    · next hname =>
      rw [hname]
      exact iff_of_false not_straysWith_buildMerge (by simp)
    · next hname =>
      rw [hname]
      exact iff_of_false not_straysWith_buildEval (by simp)
    · next hname =>
      rw [hname]
      refine iff_of_false ?_ (by simp)
      split
      · exact not_straysWith_ok
      · exact not_straysWith_refusal rfl
    · next hname _ _ _ _ _ _ =>
      refine iff_of_false (not_straysWith_refusal rfl) ?_
      simp_all

end Transform

/-! ## Statistics, charts and exports -/

/-- A list is not mapped for a reason of one of its items. -/
theorem not_straysWith_mapM {α β : Type} {f : α → Except Fault β} {items : List α} {fault : Fault}
    (h : ∀ a ∈ items, ¬ StraysWith (f a) fault) : ¬ StraysWith (items.mapM f) fault := by
  rintro ⟨hfault, hstray⟩
  obtain ⟨before, a, behind, rfl, _, ha⟩ := Except.mapM_eq_error_iff.1 hfault
  exact h a (by simp) ⟨ha, hstray⟩

theorem Aggregation.not_straysWith_read {expression : String} {fault : Fault} :
    ¬ StraysWith (read expression) fault := by
  unfold read
  split
  · exact not_straysWith_ok
  · dsimp only
    split
    · exact not_straysWith_refusal rfl
    · split
      · exact not_straysWith_refusal rfl
      · exact not_straysWith_ok

theorem Stats.not_straysWith_build {spec : StageSpec} {fault : Fault} :
    ¬ StraysWith (build spec) fault := fun h =>
  not_straysWith_mapM (fun _ _ => Aggregation.not_straysWith_read)
    ((straysWith_map (f := fun found => (⟨found, _⟩ : Stats))).1 h)

theorem ChartStage.not_straysWith_build {spec : StageSpec} {fault : Fault} :
    ¬ StraysWith (build spec) fault := fun h =>
  Stats.not_straysWith_build ((straysWith_map (f := fun s => (⟨s, _⟩ : ChartStage))).1 h)

theorem ExportStage.not_straysWith_readSample {text : String} {fault : Fault} :
    ¬ StraysWith (readSample text) fault := by
  unfold readSample
  split
  · exact not_straysWith_ok
  · exact not_straysWith_refusal rfl

theorem ExportStage.not_straysWith_build {spec : StageSpec} {fault : Fault} :
    ¬ StraysWith (build spec) fault := by
  unfold build
  split
  · exact not_straysWith_refusal rfl
  · next target _ =>
    intro h
    have hsample : StraysWith ((nonEmpty (spec.param? "sample")).mapM readSample) fault :=
      (straysWith_map (f := fun sample : Option Int => (⟨target, _, sample, _⟩ : ExportStage))).1 h
    cases hgiven : nonEmpty (spec.param? "sample") with
    | none =>
        rw [hgiven] at hsample
        exact not_straysWith_ok hsample
    | some text =>
        rw [hgiven] at hsample
        exact not_straysWith_readSample ((straysWith_map (f := some)).1 hsample)

/-! ## Charts over time -/

namespace TimeChartStage

/-- A span with more digits than a number may have, and nothing else wrong. -/
structure LongSpan (text : String) (digits : List Char) : Prop where
  number : (Text.trimChars text.toList).takeWhile Text.isDecimal = digits
  unit : ((Text.trimChars text.toList).dropWhile Text.isDecimal).any Text.isDecimal = false
  long : maxIntegerDigits < digits.length

theorem readSpan_straysWith_iff {text : String} {fault : Fault} :
    StraysWith (readSpan (some text)).outcome.1 fault ↔
      ∃ digits, LongSpan text digits ∧
        fault = .integer (String.ofList digits) (.tooLong digits.length) := by
  by_cases hempty : text.isEmpty = true
  · rw [readSpan, if_pos hempty]
    refine iff_of_false not_straysWith_ok ?_
    rintro ⟨digits, hlong, _⟩
    have hshort : digits = [] := by
      rw [← hlong.number, String.isEmpty_iff.1 hempty]
      rfl
    have hmany := hlong.long
    rw [hshort] at hmany
    exact absurd hmany (by decide)
  · rw [readSpan, if_neg hempty]
    dsimp only
    generalize hdigits : (Text.trimChars text.toList).takeWhile Text.isDecimal = digits
    generalize hunit : (Text.trimChars text.toList).dropWhile Text.isDecimal = unit
    have hspan : ∀ digits', LongSpan text digits' ↔
        digits' = digits ∧ unit.any Text.isDecimal = false ∧ maxIntegerDigits < digits.length := by
      intro digits'
      constructor
      · rintro ⟨rfl, hrest, hlong⟩
        rw [hdigits] at hlong ⊢
        exact ⟨rfl, hunit ▸ hrest, hlong⟩
      · rintro ⟨rfl, hrest, hlong⟩
        exact ⟨hdigits, hunit.symm ▸ hrest, hlong⟩
    simp only [hspan]
    split
    · next hrefused =>
      refine iff_of_false (not_straysWith_refusal rfl) ?_
      rintro ⟨_, ⟨rfl, hrest, hlong⟩, _⟩
      rw [hrest, Bool.or_false, List.isEmpty_iff] at hrefused
      rw [hrefused] at hlong
      exact absurd hlong (by decide)
    · next hread =>
      obtain ⟨hne, hrest⟩ : digits ≠ [] ∧ unit.any Text.isDecimal = false := by
        simpa using hread
      have hdecimal : ∀ c ∈ digits, Text.isDecimal c = true := by
        rw [← hdigits]
        exact fun c hc => List.mem_takeWhile_imp hc
      rw [readInteger_of_decimals hne hdecimal]
      by_cases hlong : maxIntegerDigits < digits.length
      · rw [if_pos hlong]
        constructor
        · rintro ⟨hfault, _⟩
          cases hfault
          exact ⟨digits, ⟨rfl, hrest, hlong⟩, rfl⟩
        · rintro ⟨_, ⟨rfl, _⟩, rfl⟩
          exact ⟨rfl, rfl⟩
      · rw [if_neg hlong]
        refine iff_of_false ?_ fun ⟨_, ⟨_, _, h⟩, _⟩ => hlong h
        dsimp only
        split
        · exact not_straysWith_refusal rfl
        · split
          · exact not_straysWith_ok
          · exact not_straysWith_ok

theorem build_straysWith_iff [Platform] {spec : StageSpec} {timezone : String} {fault : Fault} :
    StraysWith (build spec timezone).outcome.1 fault ↔
      (Platform.zone? timezone).isSome = true ∧ ∃ digits, LongSpan (spanText spec) digits ∧
        fault = .integer (String.ofList digits) (.tooLong digits.length) := by
  rw [outcome_build]
  cases Platform.zone? timezone with
  | none => exact iff_of_false (not_straysWith_refusal rfl) (by simp)
  | some zone =>
      refine straysWith_map.trans (readSpan_straysWith_iff.trans ?_)
      simp

end TimeChartStage

/-! ## All stages -/

/-- The stage fails to be built, and not because it is refused. -/
inductive StageSpec.Strays [Platform] (timezone : String) (spec : StageSpec) : Fault → Prop
  | filter {source : String} {fault : Fault} (command : Text.lower spec.command = "filter")
      (hsource : spec.filterPattern? = some source) (strays : Pattern.Strays source fault) :
      Strays timezone spec fault
  | transform {closing : String} {fault : Fault} (command : Text.lower spec.command = "transform")
      (hclosing : Transform.closing? spec.args = some closing)
      (slips : Transform.Slips closing spec.args fault) : Strays timezone spec fault
  | timechart {digits : List Char} (command : Text.lower spec.command = "timechart")
      (hzone : (Platform.zone? timezone).isSome = true)
      (long : TimeChartStage.LongSpan (TimeChartStage.spanText spec) digits) :
      Strays timezone spec (.integer (String.ofList digits) (.tooLong digits.length))

theorem Stage.built_straysWith_iff [Platform] {timezone : String} {spec : StageSpec}
    {fault : Fault} :
    StraysWith (built timezone spec) fault ↔ spec.Strays timezone fault := by
  have hcommand : ∀ {fault}, spec.Strays timezone fault → Text.lower spec.command = "filter" ∨
      Text.lower spec.command = "transform" ∨ Text.lower spec.command = "timechart" := by
    intro fault h
    cases h with
    | filter command => exact .inl command
    | transform command => exact .inr (.inl command)
    | timechart command => exact .inr (.inr command)
  unfold built build
  split
  · next hname =>
    rw [Logged.outcome_map_ofExcept, straysWith_map, Filter.build_straysWith_iff]
    constructor
    · rintro ⟨source, hsource, strays⟩
      exact .filter hname hsource strays
    · intro h
      cases h with
      | filter _ hsource strays => exact ⟨_, hsource, strays⟩
      | transform command => simp [hname] at command
      | timechart command => simp [hname] at command
  · next hname =>
    rw [Logged.outcome_map_ofExcept, straysWith_map, Transform.build_straysWith_iff]
    constructor
    · rintro ⟨closing, hclosing, hslips⟩
      exact .transform hname hclosing hslips
    · intro h
      cases h with
      | filter command => simp [hname] at command
      | transform _ hclosing hslips => exact ⟨_, hclosing, hslips⟩
      | timechart command => simp [hname] at command
  · next hname =>
    rw [Logged.outcome_map_ofExcept, straysWith_map]
    exact iff_of_false Stats.not_straysWith_build fun h => by simpa [hname] using hcommand h
  · next hname =>
    rw [Logged.outcome_map_ofExcept, straysWith_map]
    exact iff_of_false ChartStage.not_straysWith_build fun h => by simpa [hname] using hcommand h
  · next hname =>
    rw [Logged.outcome_bind fun _ => Logged.appends_pure _]
    refine straysWith_map.trans (TimeChartStage.build_straysWith_iff.trans ?_)
    constructor
    · rintro ⟨hzone, digits, hlong, rfl⟩
      exact .timechart hname hzone hlong
    · intro h
      cases h with
      | filter command => simp [hname] at command
      | transform command => simp [hname] at command
      | timechart _ hzone hlong => exact ⟨hzone, _, hlong, rfl⟩
  · next hname =>
    rw [Logged.outcome_map_ofExcept, straysWith_map]
    exact iff_of_false ExportStage.not_straysWith_build fun h => by simpa [hname] using hcommand h
  · next hfilter htransform _ _ htimechart _ =>
    exact iff_of_false (not_straysWith_refusal rfl) fun h => by
      rcases hcommand h with h | h | h
      · exact hfilter h
      · exact htransform h
      · exact htimechart h

/-- Of these stages, the leftmost one that is not built strays. -/
def StageSpec.FirstStrays [Platform] (timezone : String) (specs : List StageSpec)
    (fault : Fault) : Prop :=
  ∃ before spec behind, specs = before ++ spec :: behind ∧
    (∀ b ∈ before, ∃ stage, Stage.built timezone b = .ok stage) ∧ spec.Strays timezone fault

/-- **Building a query fails with something else than a refusal** if and only
if the leftmost stage that is not built is one of those that stray, whatever
zones, names and stack the platform has.  Otherwise the stages are built, or the
command, the arguments or the pattern of that stage are refused. -/
theorem stray_faults_of_building [Platform] (timezone query : String) (log : List LogLine) :
    (∀ fault,
      ((Call.on (Stage.buildAll timezone (Query.read query).stages) log).1 = .error fault ∧
          fault.isRefusal = false) ↔
        StageSpec.FirstStrays timezone (Query.read query).stages fault) ∧
    ((∃ stages, (Call.on (Stage.buildAll timezone (Query.read query).stages) log).1 = .ok stages) ∨
      (∃ refusal, refusal.isRefusal = true ∧
        (Call.on (Stage.buildAll timezone (Query.read query).stages) log).1 = .error refusal) ∨
      ∃ fault, StageSpec.FirstStrays timezone (Query.read query).stages fault) := by
  generalize (Query.read query).stages = specs
  have hstray : ∀ fault,
      ((Call.on (Stage.buildAll timezone specs) log).1 = .error fault ∧ fault.isRefusal = false) ↔
        StageSpec.FirstStrays timezone specs fault := by
    intro fault
    rw [Stage.buildAll_eq_error_iff]
    constructor
    · rintro ⟨⟨before, spec, behind, hsplit, hbefore, hfault⟩, hkind⟩
      exact ⟨before, spec, behind, hsplit, hbefore, Stage.built_straysWith_iff.1 ⟨hfault, hkind⟩⟩
    · rintro ⟨before, spec, behind, hsplit, hbefore, hspec⟩
      obtain ⟨hfault, hkind⟩ := Stage.built_straysWith_iff.2 hspec
      exact ⟨⟨before, spec, behind, hsplit, hbefore, hfault⟩, hkind⟩
  refine ⟨hstray, ?_⟩
  cases hbuild : (Call.on (Stage.buildAll timezone specs) log).1 with
  | ok stages => exact .inl ⟨stages, rfl⟩
  | error fault =>
      refine .inr ?_
      by_cases hkind : fault.isRefusal = true
      · exact .inl ⟨fault, hkind, rfl⟩
      · exact .inr ⟨fault, (hstray fault).1 ⟨hbuild, Bool.eq_false_iff.2 hkind⟩⟩

/-- The characters of groups nested five hundred deep. -/
def deepChars : List Char := List.replicate 500 '(' ++ List.replicate 500 ')'

/-- Groups nested five hundred deep. -/
def deepGroups : String := String.ofList deepChars

/-- A transform with these groups for a pattern. -/
def deepTransform : WrittenStage where
  command := "transform"
  items := ["extract", "f", "as", "t", "regex", deepGroups].map .argument

theorem toList_deepGroups : deepGroups.toList = deepChars := String.toList_ofList

theorem deepGroups_strays : Pattern.Strays deepGroups .tooDeep := by
  have hroom : Platform.Standard.lacksRoom false Platform.Standard.groupRoom deepChars = true := by
    decide +kernel
  refine .tooDeep ?_
  change Platform.Standard.lacksRoom false _ deepGroups.toList = true
  rwa [toList_deepGroups]

theorem deepTransform_writable : deepTransform.Writable where
  command := ⟨by decide, forall_mem_of_all (by decide)⟩
  items := by
    have hwords : ∀ text ∈ ["extract", "f", "as", "t", "regex"], Quotable text := by decide
    have hlast : deepChars.getLast? ≠ some '\\' := by decide +kernel
    have hdeep : Quotable deepGroups := by
      rwa [Quotable, toList_deepGroups]
    have htexts := List.forall_mem_append.2 ⟨hwords, List.forall_mem_singleton.2 hdeep⟩
    intro i hi
    obtain ⟨text, htext, rfl⟩ := List.mem_map.1 hi
    exact htexts text htext

/-- A keyword that stands last has nothing behind it, and groups are nested too
deeply: neither query is refused. -/
theorem stray_faults_of_mistakes :
    (Call.on (Stage.buildAll "UTC"
        (Query.read "* | transform extract f a b as regex").stages) []).1 = .error .beyondEnd ∧
    (Call.on (Stage.buildAll "UTC"
        (Query.read (Query.write "*" [deepTransform])).stages) []).1 = .error .tooDeep ∧
    Fault.isRefusal .beyondEnd = false ∧ Fault.isRefusal .tooDeep = false := by
  have hlast : StageSpec.Strays "UTC"
      ⟨"transform", ["extract", "f", "a", "b", "as", "regex"], .empty⟩ .beyondEnd :=
    .transform (by decide) rfl (.keywordLast ⟨by decide, rfl, rfl⟩ (.inl rfl))
  have hdeep : StageSpec.Strays "UTC" deepTransform.spec .tooDeep :=
    .transform (by decide) rfl (.pattern ⟨by decide, rfl, rfl⟩ rfl rfl deepGroups_strays)
  have hbase : IsBase "*" := .of_ends (forall_mem_of_all (by decide)) rfl rfl (by decide)
  have hread : (Query.read (Query.write "*" [deepTransform])).stages = [deepTransform.spec] := by
    rw [Query.read_write_eq hbase fun s hs => (List.mem_singleton.1 hs) ▸ deepTransform_writable]
    rfl
  exact ⟨(((stray_faults_of_building "UTC" _ []).1 _).2
      ⟨[], _, [], by decide +kernel, nofun, hlast⟩).1,
    (((stray_faults_of_building "UTC" _ []).1 _).2 ⟨[], _, [], hread, nofun, hdeep⟩).1, rfl, rfl⟩

end PipeQuery
