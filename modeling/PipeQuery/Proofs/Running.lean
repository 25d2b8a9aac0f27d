import PipeQuery.Platform.Standard
import PipeQuery.Proofs.NumbersIn
import PipeQuery.Proofs.Steps
import PipeQuery.OrderedMap
import PipeQuery.Query.Reader
import Mathlib.Data.List.TakeWhile

/-!
# What running stages can fail with

Builders see to it that a stage finds what it looks for (`Stage.Ready`): there
is an aggregation to sort by, every row has a number in its column, and a chart
over time has a span to divide by.  What is left to fail is the label of a span
and a sample that cannot be counted to (`Stage.Fails`), whatever the stages in
front have made of the records:

* `Stage.on_runAll_error_iff`: a run fails if and only if one of its stages
  does, on what the stages in front of it have made;
* `runs_of_built`: stages without charts over time and without oversized samples
  never fail; in UTC a chart over time fails if and only if one of its spans
  starts outside the years 1 to 9999, and nothing else does.
-/

namespace PipeQuery

/-! ## Sorting -/

namespace OrderedMap

variable {κ α : Type} [DecidableEq κ]

theorem mem_values_iff_get? {m : OrderedMap κ α} {value : α} :
    value ∈ m.values ↔ ∃ key, m.get? key = some value := by
  simp only [values, List.mem_map, get?_eq_some_iff]
  constructor
  · rintro ⟨⟨key, _⟩, hentry, rfl⟩
    exact ⟨key, hentry⟩
  · rintro ⟨key, hentry⟩
    exact ⟨_, hentry, rfl⟩

/-- What holds of all values holds after an update that keeps it. -/
theorem forall_values_update {P : α → Prop} {m : OrderedMap κ α} {key : κ} {start : α}
    {change : α → α} (hm : ∀ v ∈ m.values, P v) (hstart : P start)
    (hchange : ∀ v, P v → P (change v)) : ∀ v ∈ (m.update key start change).values, P v := by
  intro v hv
  obtain ⟨k, hk⟩ := mem_values_iff_get?.1 hv
  rw [get?_update] at hk
  split at hk
  · cases hk
    refine hchange _ ?_
    cases hold : m.get? key with
    | none => exact hstart
    | some value => exact hm value (mem_values_iff_get?.2 ⟨key, hold⟩)
  · exact hm v (mem_values_iff_get?.2 ⟨k, hk⟩)

/-- Where all values are of a kind, so is the last value of a key. -/
theorem exists_lastValue? {P : α → Prop} {entries : List (κ × α)} {key : κ}
    (hall : ∀ e ∈ entries, P e.2) (hkey : key ∈ entries.map Prod.fst) :
    ∃ value, lastValue? key entries = some value ∧ P value := by
  obtain ⟨entry, hentry, rfl⟩ := List.mem_map.1 hkey
  have hmember : entry ∈ entries.filter fun e => decide (e.1 = entry.1) :=
    List.mem_filter.2 ⟨hentry, by simp⟩
  cases hlast : (entries.filter fun e => decide (e.1 = entry.1)).getLast? with
  | none =>
      rw [List.getLast?_eq_none_iff.1 hlast] at hmember
      cases hmember
  | some last =>
      have hin : last ∈ entries := (List.mem_filter.1 (List.mem_of_getLast? hlast)).1
      exact ⟨last.2, by rw [lastValue?, hlast]; rfl, hall last hin⟩

end OrderedMap

/-- Something is always asked for. -/
theorem Grouping.aggregations_ne_nil (onlyFirst : Bool) (args : List String) :
    (ofArgs onlyFirst args).aggregations ≠ [] := by
  unfold ofArgs
  dsimp only
  split
  · exact List.cons_ne_nil _ _
  · next h => simpa using h

namespace Stats

variable {s : Stats}

/-- There is an aggregation to sort by, and every row of every table has a number
in its column. -/
def Sorts (s : Stats) : Prop :=
  ∃ first rest, s.aggregations = first :: rest ∧
    ∀ records, ∀ row ∈ (s.aggregate records).rows, ∃ n, row.get? first.expression = some (.number n)

theorem length_addRecord {tallies : List Tally} (h : tallies.length = s.aggregations.length)
    (r : Record) : (s.addRecord tallies r).length = s.aggregations.length := by
  rw [addRecord, List.length_zipWith, h, Nat.min_self]

theorem length_foldl_addRecord (records : List Record) :
    (records.foldl s.addRecord s.newTallies).length = s.aggregations.length := by
  have hfold : ∀ tallies : List Tally, tallies.length = s.aggregations.length →
      (records.foldl s.addRecord tallies).length = s.aggregations.length := by
    induction records with
    | nil => exact fun _ h => h
    | cons r rest ih => exact fun tallies h => ih _ (length_addRecord h r)
  exact hfold _ (List.length_map ..)

/-- Every group has a tally for each aggregation. -/
theorem length_tallies (records : List Record) :
    ∀ g ∈ (records.foldl s.addToGroups .empty).values,
      g.tallies.length = s.aggregations.length := by
  have hfold : ∀ groups : OrderedMap String Group,
      (∀ g ∈ groups.values, g.tallies.length = s.aggregations.length) →
      ∀ g ∈ (records.foldl s.addToGroups groups).values,
        g.tallies.length = s.aggregations.length := by
    induction records with
    | nil => exact fun _ h => h
    | cons r rest ih =>
        intro groups h
        refine ih _ (OrderedMap.forall_values_update h (List.length_map ..) ?_)
        exact fun g hg => length_addRecord hg r
  exact hfold .empty fun g hg => nomatch hg

theorem cells_eq (s : Stats) (tallies : List Tally) :
    s.cells tallies = (s.aggregations.zip tallies).map fun p =>
      (p.1.expression, Cell.number (p.2.value p.1.measure)) := by
  rw [cells, ← List.map_uncurry_zip_eq_zipWith]
  rfl

/-- Each aggregation has a number. -/
theorem exists_number {tallies : List Tally} (h : tallies.length = s.aggregations.length)
    {a : Aggregation} (ha : a ∈ s.aggregations) :
    ∃ n, OrderedMap.lastValue? a.expression (s.cells tallies) = some (.number n) := by
  have hnumbers : ∀ e ∈ s.cells tallies, ∃ n, e.2 = Cell.number n := by
    rw [cells_eq]
    intro e he
    obtain ⟨p, _, rfl⟩ := List.mem_map.1 he
    exact ⟨_, rfl⟩
  have hkeys : (s.cells tallies).map Prod.fst = s.aggregations.map Aggregation.expression := by
    calc (s.cells tallies).map Prod.fst
        = ((s.aggregations.zip tallies).map Prod.fst).map Aggregation.expression := by
          rw [cells_eq, List.map_map, List.map_map]
          rfl
      _ = s.aggregations.map Aggregation.expression := by
          rw [List.map_fst_zip (Nat.le_of_eq h.symm)]
  obtain ⟨_, hlast, n, rfl⟩ := OrderedMap.exists_lastValue? (P := fun cell => ∃ n, cell = .number n)
    hnumbers (hkeys ▸ List.mem_map_of_mem ha)
  exact ⟨n, hlast⟩

theorem mem_sortRows {column : String} {rows : List Row} {row : Row} :
    row ∈ sortRows column rows ↔ row ∈ rows := List.mem_mergeSort

/-- **Statistics with an aggregation can be sorted**: every row has its number. -/
theorem sorts_of_ne_nil (h : s.aggregations ≠ []) : s.Sorts := by
  obtain ⟨first, rest, haggregations⟩ := List.exists_cons_of_ne_nil h
  have hfirst : first ∈ s.aggregations := by simp [haggregations]
  refine ⟨first, rest, haggregations, fun records row hrow => ?_⟩
  unfold aggregate at hrow
  split at hrow
  · obtain rfl := List.mem_singleton.1 hrow
    rw [OrderedMap.get?_ofList]
    exact exists_number (length_foldl_addRecord records) hfirst
  · rw [haggregations] at hrow
    obtain ⟨g, hg, rfl⟩ := List.mem_map.1 (mem_sortRows.1 hrow)
    obtain ⟨n, hn⟩ := exists_number (length_tallies records g hg) hfirst
    rw [groupRow, OrderedMap.get?_foldl_insert, hn]
    exact ⟨n, rfl⟩

/-- Statistics are built with an aggregation. -/
theorem sorts_of_build {spec : StageSpec} (h : build spec = .ok s) : s.Sorts := by
  obtain ⟨found, hfound, rfl⟩ := Except.exists_of_map_eq_ok (g := fun found => (⟨found, _⟩ : Stats)) h
  refine sorts_of_ne_nil ?_
  obtain ⟨expression, hexpression⟩ := List.exists_mem_of_ne_nil _ (Grouping.aggregations_ne_nil false spec.args)
  obtain ⟨a, ha, _⟩ := (Except.mem_of_mapM_eq_ok hfound).1 expression (mem_firstOccurrences.2 hexpression)
  exact List.ne_nil_of_mem ha

end Stats

/-! ## Spans -/

namespace TimeChartStage

theorem unitMillis?_whole {unit : List Char} {millis : Nat} (h : unitMillis? unit = some millis) :
    0 < millis ∧ 1000 ∣ millis := by
  have hunit : ∀ units : List (List Char × Nat), (∀ u ∈ units, 0 < u.2 ∧ 1000 ∣ u.2) →
      units.lookup unit = some millis → 0 < millis ∧ 1000 ∣ millis := by
    intro units hunits hlookup
    obtain ⟨l₁, l₂, rfl, _⟩ := List.lookup_eq_some_iff.1 hlookup
    exact hunits (unit, millis) (by simp)
  exact hunit _ (by decide) h

/-- A span that is read is a positive number of seconds. -/
theorem span_of_readSpan {text : String} {millis : Nat}
    (h : (readSpan (some text)).outcome.1 = .ok millis) : 0 < millis ∧ 1000 ∣ millis := by
  have hhour : 0 < hourMillis ∧ 1000 ∣ hourMillis := by decide
  by_cases hempty : text.isEmpty = true
  · rw [readSpan, if_pos hempty] at h
    cases h
    exact hhour
  · rw [readSpan, if_neg hempty] at h
    dsimp only at h
    generalize hdigits : (Text.trimChars text.toList).takeWhile Text.isDecimal = digits at h
    generalize (Text.trimChars text.toList).dropWhile Text.isDecimal = unit at h
    split at h
    · cases h
    · next hread =>
      have hne : digits ≠ [] := by
        rintro rfl
        simp at hread
      have hdecimal : ∀ c ∈ digits, Text.isDecimal c = true := by
        rw [← hdigits]
        exact fun c hc => List.mem_takeWhile_imp hc
      rw [readInteger_of_decimals hne hdecimal] at h
      by_cases hlong : maxIntegerDigits < digits.length
      · rw [if_pos hlong] at h
        cases h
      · rw [if_neg hlong] at h
        dsimp only at h
        split at h
        · cases h
        · next hzero =>
          split at h
          · next units hunits =>
            cases h
            obtain ⟨hpos, hdvd⟩ := unitMillis?_whole hunits
            refine ⟨Nat.mul_pos (by omega) hpos, Dvd.dvd.mul_left hdvd _⟩
          · cases h
            exact hhour

theorem ready_of_build [Platform] {spec : StageSpec} {timezone : String} {s : TimeChartStage}
    (h : (build spec timezone).outcome.1 = .ok s) :
    Platform.zone? timezone = some s.zone ∧ 0 < s.spanMillis ∧ 1000 ∣ s.spanMillis := by
  rw [outcome_build] at h
  cases hzone : Platform.zone? timezone with
  | none =>
      rw [hzone] at h
      cases h
  | some zone =>
      rw [hzone] at h
      obtain ⟨millis, hmillis, rfl⟩ := Except.exists_of_map_eq_ok h
      exact ⟨rfl, span_of_readSpan hmillis⟩

end TimeChartStage

/-! ## What builders see to -/

/-- The stage finds what it looks for.  Filters, transforms and exports hold all
that they need by their type. -/
def Stage.Ready [Platform] (timezone : String) : Stage → Prop
  | stats s => s.Sorts
  | chart c => c.stats.Sorts
  | timechart s => Platform.zone? timezone = some s.zone ∧ 0 < s.spanMillis ∧ 1000 ∣ s.spanMillis
  | filter _ | transform _ | exporting _ => True

/-- **A stage that is built finds what it looks for.** -/
theorem Stage.ready_of_built [Platform] {timezone : String} {spec : StageSpec} {stage : Stage}
    (h : built timezone spec = .ok stage) : stage.Ready timezone := by
  unfold built build at h
  split at h
  · rw [Logged.outcome_map_ofExcept] at h
    obtain ⟨s, _, rfl⟩ := Except.exists_of_map_eq_ok h
    trivial
  · rw [Logged.outcome_map_ofExcept] at h
    obtain ⟨s, _, rfl⟩ := Except.exists_of_map_eq_ok h
    trivial
  · rw [Logged.outcome_map_ofExcept] at h
    obtain ⟨s, hs, rfl⟩ := Except.exists_of_map_eq_ok h
    exact Stats.sorts_of_build hs
  · rw [Logged.outcome_map_ofExcept] at h
    obtain ⟨c, hc, rfl⟩ := Except.exists_of_map_eq_ok h
    obtain ⟨s, hs, rfl⟩ := Except.exists_of_map_eq_ok (g := fun s => (⟨s, _⟩ : ChartStage)) hc
    exact Stats.sorts_of_build hs
  · rw [Logged.outcome_bind fun _ => Logged.appends_pure _] at h
    obtain ⟨s, hs, rfl⟩ := Except.exists_of_map_eq_ok (g := timechart) h
    exact TimeChartStage.ready_of_build hs
  · rw [Logged.outcome_map_ofExcept] at h
    obtain ⟨s, _, rfl⟩ := Except.exists_of_map_eq_ok h
    trivial
  · cases h

namespace Stage

variable {stage : Stage} {result : Result}

/-! ## Runs -/

theorem on_runAll_cons (stage : Stage) (rest : List Stage) (result : Result) (log : List LogLine) :
    Call.on (runAll (stage :: rest) result) log =
      match Call.on (stage.step result) log with
      | (.ok result', lines) => Call.on (runAll rest result') lines
      | (.error fault, lines) => (.error fault, lines) := by
  rw [runAll, Call.on_bind]
  cases Call.on (stage.step result) log with
  | mk outcome lines => cases outcome <;> rfl

/-- A run is a run of its first stages and then one of the others. -/
theorem on_runAll_append (before rest : List Stage) (result : Result) (log : List LogLine) :
    Call.on (runAll (before ++ rest) result) log =
      match Call.on (runAll before result) log with
      | (.ok seen, lines) => Call.on (runAll rest seen) lines
      | (.error fault, lines) => (.error fault, lines) := by
  induction before generalizing result log with
  | nil => rfl
  | cons first before ih =>
      rw [List.cons_append, on_runAll_cons, on_runAll_cons]
      cases Call.on (first.step result) log with
      | mk outcome lines =>
        cases outcome with
        | ok result' => exact ih result' lines
        | error fault => rfl

theorem on_runAll_of_fails {before : List Stage} {seen : Result} {cause : Fault}
    {log : List LogLine} (hbefore : (Call.on (runAll before result) log).1 = .ok seen)
    (hcause : stage.Fails seen cause) (after : List Stage) :
    (Call.on (runAll (before ++ stage :: after) result) log).1 =
      .error (.execution stage.name cause.message) := by
  rw [on_runAll_append]
  generalize Call.on (runAll before result) log = run at hbefore ⊢
  obtain ⟨outcome, lines⟩ := run
  cases hbefore
  have hstep := on_step_of_fails hcause lines
  dsimp only
  rw [on_runAll_cons]
  generalize Call.on (stage.step seen) lines = last at hstep ⊢
  obtain ⟨outcome, lines⟩ := last
  cases hstep
  rfl

/-- A run that fails does so at one of its stages. -/
theorem exists_fails_of_runAll {stages : List Stage} {fault : Fault} {log : List LogLine}
    (h : (Call.on (runAll stages result) log).1 = .error fault) :
    ∃ before stage after seen cause, stages = before ++ stage :: after ∧
      (Call.on (runAll before result) log).1 = .ok seen ∧ stage.Fails seen cause ∧
      fault = .execution stage.name cause.message := by
  induction stages generalizing result log with
  | nil => cases h
  | cons first rest ih =>
      have hrun := fun stages => on_runAll_cons first stages result log
      cases hstep : Call.on (first.step result) log with
      | mk outcome lines =>
        rw [hstep] at hrun
        rw [hrun] at h
        cases outcome with
        | ok result' =>
            obtain ⟨before, stage, after, seen, cause, rfl, hbefore, hcause, rfl⟩ := ih h
            exact ⟨first :: before, stage, after, seen, cause, rfl, by rw [hrun, hbefore], hcause, rfl⟩
        | error fault' =>
            cases h
            obtain ⟨cause, hcause, rfl⟩ := (on_step_error_iff log).1 (congrArg Prod.fst hstep)
            exact ⟨[], first, rest, result, cause, rfl, rfl, hcause, rfl⟩

/-- **A run fails** if and only if one of its stages does, on what the stages in
front of it have made. -/
theorem on_runAll_error_iff {stages : List Stage} {fault : Fault} (log : List LogLine) :
    (Call.on (runAll stages result) log).1 = .error fault ↔
      ∃ before stage after seen cause, stages = before ++ stage :: after ∧
        (Call.on (runAll before result) log).1 = .ok seen ∧ stage.Fails seen cause ∧
        fault = .execution stage.name cause.message := by
  constructor
  · exact exists_fails_of_runAll
  · rintro ⟨before, stage, after, seen, cause, rfl, hbefore, hcause, rfl⟩
    exact on_runAll_of_fails hbefore hcause after

end Stage

theorem ExportStage.not_isOversized {s : ExportStage}
    (h : ∀ n, s.sampleSize = some n → n ≤ 2 ^ 63 - 1) : s.isOversized = false := by
  unfold isOversized limit?
  cases hsize : s.sampleSize with
  | none => rfl
  | some n =>
      have hn := h n hsize
      unfold sampleLimit
      by_cases hpos : 0 < n
      · simp [Option.filter, hpos]
        omega
      · simp [Option.filter, hpos]

/-- **Stages that are built find what they look for, and run.**  Without charts
over time and without samples that cannot be counted to, they always give a
result.  With charts over time in UTC, the run fails if and only if it comes to
one of them with records for which some span starts outside the years 1 to 9999,
and the fault names that stage. -/
theorem runs_of_built [Platform] {timezone : String} {specs : List StageSpec}
    {stages : List Stage} {buildLog : List LogLine}
    (hbuilt : (Call.on (Stage.buildAll timezone specs) buildLog).1 = .ok stages)
    (hsamples : ∀ s n, .exporting s ∈ stages → s.sampleSize = some n → n ≤ 2 ^ 63 - 1)
    (records : List Record) (log : List LogLine) :
    (∀ stage ∈ stages, stage.Ready timezone) ∧
    ((∀ s, .timechart s ∉ stages) →
      ∃ result, (Call.on (Stage.runAll stages (.logs records)) log).1 = .ok result) ∧
    (timezone = "UTC" →
      ((∃ fault, (Call.on (Stage.runAll stages (.logs records)) log).1 = .error fault) ↔
        ∃ before s after seen, stages = before ++ .timechart s :: after ∧
          (Call.on (Stage.runAll before (.logs records)) log).1 = .ok (.logs seen) ∧
          ∃ start ∈ s.starts seen, ¬ (1 ≤ yearAt start ∧ yearAt start ≤ 9999)) ∧
      ∀ fault, (Call.on (Stage.runAll stages (.logs records)) log).1 = .error fault →
        ∃ reason, fault = .execution "timechart" reason) := by
  have hready : ∀ stage ∈ stages, stage.Ready timezone := by
    intro stage hstage
    obtain ⟨spec, _, hspec⟩ := (Stage.built_of_buildAll hbuilt).2 stage hstage
    exact Stage.ready_of_built hspec
  -- nothing but a chart over time can fail
  have hcharts : ∀ fault, (Call.on (Stage.runAll stages (.logs records)) log).1 = .error fault →
      ∃ before s after seen reason, stages = before ++ .timechart s :: after ∧
        (Call.on (Stage.runAll before (.logs records)) log).1 = .ok (.logs seen) ∧
        s.bucket seen = .error (.time reason) ∧ fault = .execution "timechart" reason.message := by
    intro fault h
    obtain ⟨before, stage, after, seen, cause, hsplit, hbefore, hcause, rfl⟩ :=
      (Stage.on_runAll_error_iff log).1 h
    cases hcause with
    | timechart hbucket => exact ⟨before, _, after, _, _, hsplit, hbefore, hbucket, rfl⟩
    | @exporting s _ _ hsample =>
        have hmember : .exporting s ∈ stages := by simp [hsplit]
        rw [ExportStage.not_isOversized fun n hn => hsamples s n hmember hn] at hsample
        cases hsample
  refine ⟨hready, fun hnone => ?_, ?_⟩
  · cases hrun : (Call.on (Stage.runAll stages (.logs records)) log).1 with
    | ok result => exact ⟨result, rfl⟩
    | error fault =>
        obtain ⟨before, s, after, _, _, hsplit, _⟩ := hcharts fault hrun
        exact absurd (by simp [hsplit]) (hnone s)
  · rintro rfl
    have hutc : ∀ s seen, .timechart s ∈ stages →
        ((∃ reason, s.bucket seen = .error (.time reason)) ↔
          ∃ start ∈ s.starts seen, ¬ (1 ≤ yearAt start ∧ yearAt start ≤ 9999)) := by
      intro s seen hmember
      obtain ⟨hzone, _, hspan⟩ := hready _ hmember
      rw [Platform.zone?_utc] at hzone
      exact TimeChartStage.bucket_utc_error_iff (Option.some.inj hzone).symm hspan
    refine ⟨⟨?_, ?_⟩, ?_⟩
    · rintro ⟨fault, h⟩
      obtain ⟨before, s, after, seen, reason, hsplit, hbefore, hbucket, _⟩ := hcharts fault h
      exact ⟨before, s, after, seen, hsplit, hbefore,
        (hutc s seen (by simp [hsplit])).1 ⟨reason, hbucket⟩⟩
    · rintro ⟨before, s, after, seen, rfl, hbefore, hstart⟩
      obtain ⟨reason, hbucket⟩ := (hutc s seen (by simp)).2 hstart
      exact ⟨_, (Stage.on_runAll_error_iff log).2
        ⟨before, _, after, _, _, rfl, hbefore, .timechart hbucket, rfl⟩⟩
    · intro fault h
      obtain ⟨_, _, _, _, reason, _, _, _, rfl⟩ := hcharts fault h
      exact ⟨reason.message, rfl⟩

/-- A chart behind a filter. -/
def longSpans : Query := Query.read "* | filter level = warn | timechart span=720000d by level"

/-- Its span is longer than all time from the year 1 to 1970. -/
def longSpansChart : TimeChartStage := ⟨62208000000000, some "level", .utc, "UTC", ["count"]⟩

/-- A record of the last second of 1969. -/
def lastSecond : Record :=
  { (default : Record) with
    timestamp := some ⟨-1000000, 0⟩, fields := .ofList [("level", "warn")] }

/-- The only span starts in the year -2. -/
theorem longSpans_fail :
    ∃ fault, (Call.on (Stage.runAll
      [.filter ⟨"level", "warn", .comparison .equal⟩, .timechart longSpansChart]
      (.logs [lastSecond])) []).1 = .error fault := by
  have hread : longSpans.stages = [⟨"filter", ["level", "=", "warn"], .empty⟩,
      ⟨"timechart", ["by", "level"], .ofList [("span", "720000d")]⟩] := by decide +kernel
  have hfilter : Filter.build ⟨"filter", ["level", "=", "warn"], .empty⟩ =
      .ok ⟨"level", "warn", .comparison .equal⟩ := by decide +kernel
  have hspan : (TimeChartStage.readSpan (some "720000d")).outcome.1 = .ok 62208000000000 := by
    decide +kernel
  have hchart : (TimeChartStage.build
      ⟨"timechart", ["by", "level"], .ofList [("span", "720000d")]⟩ "UTC").outcome.1 =
        .ok longSpansChart := by
    have htext : TimeChartStage.spanText
        ⟨"timechart", ["by", "level"], .ofList [("span", "720000d")]⟩ = "720000d" := by
      decide +kernel
    rw [TimeChartStage.outcome_build, Platform.zone?_utc, htext]
    dsimp only
    rw [hspan]
    rfl
  obtain ⟨lines, hbuild⟩ : ∃ lines, Call.on (Stage.buildAll "UTC" longSpans.stages) [] =
      (.ok [.filter ⟨"level", "warn", .comparison .equal⟩, .timechart longSpansChart], lines) := by
    rw [hread]
    refine Stage.on_buildAll_of_built (.cons ?_ (.cons ?_ .nil)) []
    · rw [Stage.built_filter _ _ _ (by decide), hfilter]
      rfl
    · rw [Stage.built_timechart _ _ _ (by decide), hchart]
      rfl
  have hbuilt := congrArg Prod.fst hbuild
  have hsamples : ∀ s n, Stage.exporting s ∈
      [.filter ⟨"level", "warn", .comparison .equal⟩, .timechart longSpansChart] →
      s.sampleSize = some n → n ≤ 2 ^ 63 - 1 := by
    simp
  refine ((runs_of_built hbuilt hsamples [lastSecond] []).2.2 rfl).1.2 ?_
  refine ⟨[.filter ⟨"level", "warn", .comparison .equal⟩], longSpansChart, [], [lastSecond], rfl, ?_,
    -62208000000000, ?_, ?_⟩
  · decide +kernel
  · decide +kernel
  · decide +kernel

end PipeQuery
