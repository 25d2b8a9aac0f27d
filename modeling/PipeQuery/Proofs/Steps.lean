import PipeQuery.Proofs.TimeLabels
import PipeQuery.OrderedMap

/-!
# What a step can come to

What a stage does with a result is settled by the kind of it.  Either the stage
applies (`Stage.appliesTo`): then it makes a result of a certain kind and writes
nothing, or it fails in one of two ways (`Stage.Fails`), a span that has no
label and a sample that cannot be counted to.  Or it leaves the result as it is
and writes one line that names it (`Stage.notice`).

* `Stage.stepped` says this once for all stages and results, and nothing behind
  it opens a stage again.
* `Stage.on_step_error_iff`: a step fails if and only if its stage does.
* A chart that is made has a number for each label in each of its series
  (`Result.IsRectangular`), whether it is drawn from statistics, from a table or
  from the times of records.
-/

namespace PipeQuery

/-! ## Charts have a number for each label -/

/-- Each series has as many numbers as there are labels. -/
def Result.IsRectangular : Result → Prop
  | chart c => ∀ e ∈ c.series.entries, e.2.length = c.labels.length
  | timechart c => ∀ e ∈ c.series.entries, e.2.length = c.labels.length
  | logs _ | table _ | exported _ => True

/-- What holds of all values that are put in holds of all values that are kept. -/
theorem OrderedMap.forall_mem_ofList {κ α : Type} [DecidableEq κ] {P : α → Prop}
    {entries : List (κ × α)} (h : ∀ e ∈ entries, P e.2) :
    ∀ e ∈ (ofList entries).entries, P e.2 := by
  intro e he
  have hvalue := get?_eq_some_iff.2 he
  rw [get?_ofList, lastValue?, Option.map_eq_some_iff] at hvalue
  obtain ⟨last, hlast, hsnd⟩ := hvalue
  rw [← hsnd]
  exact h last (List.mem_filter.1 (List.mem_of_getLast? hlast)).1

/-- A chart drawn from a table, which its statistics made or it was given. -/
theorem ChartStage.isRectangular_reshape (c : ChartStage) (t : Table) :
    (Result.chart (c.reshape t)).IsRectangular := by
  refine OrderedMap.forall_mem_ofList (P := fun values : List Number =>
    values.length = (c.reshape t).labels.length) ?_
  intro e he
  obtain ⟨a, _, rfl⟩ := List.mem_map.1 he
  simp [reshape]

/-- A chart over time has a label for each span. -/
theorem TimeChartStage.isRectangular_bucket {s : TimeChartStage} {records : List Record}
    {c : TimeChart} (h : s.bucket records = .ok c) : (Result.timechart c).IsRectangular := by
  unfold bucket at h
  dsimp only at h
  split at h
  · cases h
    simp [Result.IsRectangular, OrderedMap.empty]
  · split at h
    · cases h
    · next low high _ _ labels hlabels =>
      cases h
      intro e he
      obtain ⟨counts, _, rfl⟩ := List.mem_map.1 he
      have hlength : labels.length = (s.spanStarts low high).length :=
        Except.length_of_mapM_eq_ok hlabels
      simp [hlength]

/-! ## Samples -/

/-- More records are asked for than can be counted to. -/
def ExportStage.isOversized (s : ExportStage) : Bool := s.limit?.any fun n => sampleLimit < n

theorem ExportStage.package_of_isOversized {s : ExportStage} (h : s.isOversized = true)
    (records : List Record) : s.package records = .error .windowEnd := by
  unfold isOversized at h
  unfold package
  cases hlimit : s.limit? with
  | none =>
      rw [hlimit] at h
      cases h
  | some n =>
      rw [hlimit] at h
      exact if_pos (of_decide_eq_true h)

theorem ExportStage.package_of_not_isOversized {s : ExportStage} (h : s.isOversized = false)
    (records : List Record) : ∃ sample, s.package records = .ok sample := by
  unfold isOversized at h
  unfold package
  cases hlimit : s.limit? with
  | none => exact ⟨_, rfl⟩
  | some n =>
      rw [hlimit] at h
      exact ⟨_, if_neg (of_decide_eq_false h)⟩

namespace Stage

/-! ## What a stage does with a kind -/

/-- The stage does something with results of the kind. -/
def appliesTo : Stage → ResultKind → Bool
  | filter _, kind | transform _, kind | chart _, kind | exporting _, kind => !kind.isTerminal
  | stats _, kind | timechart _, kind => decide (kind = .logs)

/-- The kind that the stage makes of a kind that it applies to. -/
def kindMade : Stage → ResultKind → ResultKind
  | filter _, kind | transform _, kind => kind
  | stats _, _ => .table
  | chart _, _ => .chart
  | timechart _, _ => .timechart
  | exporting _, _ => .exported

/-- What is written when the stage leaves a result of the kind as it is. -/
def notice (stage : Stage) (kind : ResultKind) : LogLine :=
  if kind.isTerminal then
    ⟨.warning, loggerId,
      "Skipping " ++ stage.name ++ ": " ++ kind.name ++ " results are terminal"⟩
  else
    ⟨.warning, "Stages", stage.name ++ " does not apply to " ++ kind.name
      ++ " results; passing them through unchanged"⟩

/-- What is written when the stage fails. -/
def failureLine (stage : Stage) : LogLine :=
  ⟨.error, loggerId, "Error executing pipe command: " ++ stage.name⟩

theorem not_appliesTo_of_isTerminal {kind : ResultKind} (h : kind.isTerminal = true)
    (stage : Stage) : stage.appliesTo kind = false := by
  cases stage <;> cases kind <;> simp_all [appliesTo, ResultKind.isTerminal]

/-! ## How a stage fails -/

/-- How a stage can fail on a result. -/
inductive Fails : Stage → Result → Fault → Prop
  /-- A span has no label. -/
  | timechart {s : TimeChartStage} {records : List Record} {reason : TimeFault}
      (hbucket : s.bucket records = .error (.time reason)) :
      Fails (.timechart s) (.logs records) (.time reason)
  /-- The sample is too large. -/
  | exporting {s : ExportStage} {result : Result} (hopen : result.kind.isTerminal = false)
      (hsample : s.isOversized = true) : Fails (.exporting s) result .windowEnd

variable {stage : Stage} {result : Result}

theorem on_execute_of_fails {fault : Fault} (h : stage.Fails result fault) (log : List LogLine) :
    Call.on (stage.execute result) log = (.error fault, log) := by
  cases h with
  | timechart hbucket =>
      rw [execute, hbucket]
      rfl
  | exporting hopen hsample =>
      cases result with
      | logs records =>
          rw [execute, ExportStage.package_of_isOversized hsample]
          rfl
      | table t =>
          rw [execute, ExportStage.package_of_isOversized hsample]
          rfl
      | chart c => cases hopen
      | timechart c => cases hopen
      | exported e => cases hopen

theorem Fails.isTerminal {fault : Fault} (h : stage.Fails result fault) :
    result.kind.isTerminal = false := by
  cases h with
  | timechart => rfl
  | exporting hopen => exact hopen

theorem Fails.isOwn {fault : Fault} (h : stage.Fails result fault) : fault.isOwn = false := by
  cases h <;> rfl

/-! ## Steps -/

/-- A stage that applies makes its kind of result, or fails. -/
theorem on_execute_of_appliesTo (h : stage.appliesTo result.kind = true) :
    (∃ next, (∀ log, Call.on (stage.execute result) log = (.ok next, log)) ∧
      next.kind = stage.kindMade result.kind ∧ next.IsRectangular) ∨
    ∃ cause, stage.Fails result cause := by
  cases stage with
  | filter s =>
      cases result with
      | logs records => exact .inl ⟨_, fun _ => rfl, rfl, trivial⟩
      | table t => exact .inl ⟨_, fun _ => rfl, rfl, trivial⟩
      | chart | timechart | exported => cases h
  | transform s =>
      cases result with
      | logs records => exact .inl ⟨_, fun _ => rfl, rfl, trivial⟩
      | table t => exact .inl ⟨_, fun _ => rfl, rfl, trivial⟩
      | chart | timechart | exported => cases h
  | stats s =>
      cases result with
      | logs records => exact .inl ⟨_, fun _ => rfl, rfl, trivial⟩
      | table | chart | timechart | exported => cases h
  | chart s =>
      cases result with
      | logs records => exact .inl ⟨_, fun _ => rfl, rfl, s.isRectangular_reshape _⟩
      | table t => exact .inl ⟨_, fun _ => rfl, rfl, s.isRectangular_reshape t⟩
      | chart | timechart | exported => cases h
  | timechart s =>
      cases result with
      | logs records =>
          rcases s.bucket_cases records with ⟨_, chart, hchart⟩ | ⟨_, _, _, _, hbucket⟩
          · refine .inl ⟨.timechart chart, fun _ => ?_, rfl,
              TimeChartStage.isRectangular_bucket hchart⟩
            simp only [execute, hchart]
            rfl
          · exact .inr ⟨_, .timechart hbucket⟩
      | table | chart | timechart | exported => cases h
  | exporting s =>
      by_cases hsample : s.isOversized = true
      · exact .inr ⟨_, .exporting (by simpa [appliesTo] using h) hsample⟩
      · have hpackage := ExportStage.package_of_not_isOversized (Bool.eq_false_iff.2 hsample)
        cases result with
        | logs records =>
            obtain ⟨sample, hok⟩ := hpackage records
            refine .inl ⟨.exported sample, fun _ => ?_, rfl, trivial⟩
            simp only [execute, hok]
            rfl
        | table t =>
            obtain ⟨sample, hok⟩ := hpackage (t.rows.map (ExportStage.recordOfRow t.columns))
            refine .inl ⟨.exported sample, fun _ => ?_, rfl, trivial⟩
            simp only [execute, hok]
            rfl
        | chart | timechart | exported => cases h

/-- A stage that does not apply passes on what it is given. -/
theorem execute_of_not_appliesTo (h : stage.appliesTo result.kind = false) :
    stage.execute result = stage.passThrough result := by
  cases stage <;> cases result <;> first | rfl | cases h

/-- What a step comes to and what it writes. -/
inductive Stepped (stage : Stage) (result : Result) : Except Fault Result → List LogLine → Prop
  /-- The stage does not apply. -/
  | idle (hidle : stage.appliesTo result.kind = false) :
      Stepped stage result (.ok result) [stage.notice result.kind]
  /-- The stage makes a result of its kind, and writes nothing. -/
  | made {next : Result} (hbusy : stage.appliesTo result.kind = true)
      (hkind : next.kind = stage.kindMade result.kind) (hnumbers : next.IsRectangular) :
      Stepped stage result (.ok next) []
  /-- The stage fails. -/
  | failed {cause : Fault} (hcause : stage.Fails result cause) :
      Stepped stage result (.error (.execution stage.name cause.message)) [stage.failureLine]

/-- **What a step can come to.**  A terminal result is not given to the stage at
all, and any other result that the stage does not apply to is passed on by the
stage: either way there is one warning, and never two. -/
theorem stepped (stage : Stage) (result : Result) :
    ∃ outcome lines, Stepped stage result outcome lines ∧
      ∀ log, Call.on (stage.step result) log = (outcome, log ++ lines) := by
  by_cases hterminal : result.kind.isTerminal = true
  · refine ⟨_, _, .idle (not_appliesTo_of_isTerminal hterminal stage), fun log => ?_⟩
    simp only [step, notice, if_pos hterminal]
    rfl
  · have hguarded : stage.step result = stage.guarded result := if_neg hterminal
    cases happlies : stage.appliesTo result.kind with
    | false =>
        refine ⟨_, _, .idle happlies, fun log => ?_⟩
        rw [hguarded, guarded, execute_of_not_appliesTo happlies, notice, if_neg hterminal]
        rfl
    | true =>
        rcases on_execute_of_appliesTo happlies with
          ⟨next, hexecute, hkind, hnumbers⟩ | ⟨cause, hcause⟩
        · refine ⟨_, _, .made happlies hkind hnumbers, fun log => ?_⟩
          rw [hguarded, guarded, Call.on_tryCatch, hexecute, List.append_nil]
        · refine ⟨_, _, .failed hcause, fun log => ?_⟩
          rw [hguarded, guarded, Call.on_tryCatch, on_execute_of_fails hcause]
          simp only [hcause.isOwn]
          rfl

/-- A stage that fails is named. -/
theorem on_step_of_fails {cause : Fault} (h : stage.Fails result cause) (log : List LogLine) :
    (Call.on (stage.step result) log).1 = .error (.execution stage.name cause.message) := by
  rw [step, if_neg (by simp [h.isTerminal]), guarded, Call.on_tryCatch, on_execute_of_fails h]
  dsimp only
  rw [h.isOwn]
  rfl

/-- **A step fails** if and only if its stage does. -/
theorem on_step_error_iff {fault : Fault} (log : List LogLine) :
    (Call.on (stage.step result) log).1 = .error fault ↔
      ∃ cause, stage.Fails result cause ∧ fault = .execution stage.name cause.message := by
  constructor
  · intro hstep
    obtain ⟨outcome, lines, hstepped, hon⟩ := stepped stage result
    rw [hon] at hstep
    cases hstepped with
    | idle => cases hstep
    | made => cases hstep
    | failed hcause =>
        cases hstep
        exact ⟨_, hcause, rfl⟩
  · rintro ⟨cause, hcause, rfl⟩
    exact on_step_of_fails hcause log

end Stage

end PipeQuery
