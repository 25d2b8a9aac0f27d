import PipeQuery.Proofs.Running

/-!
# Results move forward

A run of stages is a state machine.  Its states are the kinds of results, in
the order records, table, terminal result (`ResultKind.rank`), and a stage leads
from one kind to another (`Stage.kindAfter`) or stays, with one line that names
it.  What a step can come to is known (`Stage.stepped`); all else follows from
that by induction on the steps.

* `Stage.ran`: every run is one step after another, up to its end or to the
  stage that fails (`Stage.Ran`).
* `Ran.kind_eq`, `Ran.lines_eq` and `Ran.exists_failureLine`: the kinds settle the
  kind of the last result and everything that is written.
* `Ran.isRectangular`: charts have a number for each label, wherever the run is.
* `Stage.runs_forward` puts this together for the points of a run.
-/

namespace PipeQuery

/-! ## Kinds -/

/-- Records come first, then a table, then what is terminal. -/
def ResultKind.rank : ResultKind → Nat
  | logs => 0
  | table => 1
  | chart | timechart | exported => 2

namespace Stage

/-- The kind of the result behind a stage. -/
def kindAfter (kind : ResultKind) (stage : Stage) : ResultKind :=
  if stage.appliesTo kind then stage.kindMade kind else kind

/-- The line is a warning and names the stage. -/
def WarnsOf (line : LogLine) (stage : Stage) : Prop :=
  line.level = .warning ∧ ∃ before behind, line.message = before ++ stage.name ++ behind

theorem warnsOf_notice (stage : Stage) (kind : ResultKind) : WarnsOf (stage.notice kind) stage := by
  unfold WarnsOf notice
  split
  · exact ⟨rfl, "Skipping ", ": " ++ kind.name ++ " results are terminal",
      by simp [String.append_assoc]⟩
  · exact ⟨rfl, "", " does not apply to " ++ kind.name
      ++ " results; passing them through unchanged", by simp [String.append_assoc]⟩

/-- **No stage goes back.** -/
theorem rank_le_rank_kindAfter (stage : Stage) (kind : ResultKind) :
    kind.rank ≤ (kindAfter kind stage).rank := by
  cases stage <;> cases kind <;> simp [kindAfter, appliesTo, kindMade, ResultKind.isTerminal,
    ResultKind.rank]

variable {stage : Stage} {stages : List Stage} {start result next : Result}

theorem Stepped.kind_eq {lines : List LogLine} (h : Stepped stage result (.ok next) lines) :
    next.kind = kindAfter result.kind stage := by
  cases h with
  | idle hidle => simp [kindAfter, hidle]
  | made hbusy hkind => simp [kindAfter, hbusy, hkind]

/-! ## Runs -/

/-- What is written by stages that come through, one line for each that is idle. -/
def notices : ResultKind → List Stage → List LogLine
  | _, [] => []
  | kind, stage :: rest =>
      (if stage.appliesTo kind then [] else [stage.notice kind]) ++
        notices (kindAfter kind stage) rest

/-- What a run comes to and what it writes, step after step. -/
inductive Ran : List Stage → Result → Except Fault Result → List LogLine → Prop
  /-- No stage is left. -/
  | done {result : Result} : Ran [] result (.ok result) []
  /-- The first stage gives a result, which the others run on. -/
  | onward {stage : Stage} {rest : List Stage} {result next : Result}
      {outcome : Except Fault Result} {lines more : List LogLine}
      (hstep : Stepped stage result (.ok next) lines) (hrest : Ran rest next outcome more) :
      Ran (stage :: rest) result outcome (lines ++ more)
  /-- The first stage fails, and no other is run. -/
  | stopped {stage : Stage} {rest : List Stage} {result : Result} {fault : Fault}
      {lines : List LogLine} (hstep : Stepped stage result (.error fault) lines) :
      Ran (stage :: rest) result (.error fault) lines

/-- Every run is one step after another. -/
theorem ran (stages : List Stage) (start : Result) :
    ∃ outcome lines, Ran stages start outcome lines ∧
      ∀ log, Call.on (runAll stages start) log = (outcome, log ++ lines) := by
  induction stages generalizing start with
  | nil => exact ⟨_, _, .done, fun log => by rw [List.append_nil]; rfl⟩
  | cons stage rest ih =>
      obtain ⟨outcome, lines, hstep, hon⟩ := stepped stage start
      cases outcome with
      | error fault =>
          refine ⟨_, _, .stopped hstep, fun log => ?_⟩
          rw [on_runAll_cons, hon]
      | ok next =>
          obtain ⟨outcome, more, hrest, honward⟩ := ih next
          refine ⟨_, _, .onward hstep hrest, fun log => ?_⟩
          rw [on_runAll_cons, hon]
          dsimp only
          rw [honward, List.append_assoc]

theorem Ran.kind_eq {last : Result} {lines : List LogLine}
    (h : Ran stages start (.ok last) lines) : last.kind = stages.foldl kindAfter start.kind := by
  generalize houtcome : (Except.ok last : Except Fault Result) = outcome at h
  induction h with
  | done =>
      cases houtcome
      rfl
  | onward hstep _ ih => rw [ih houtcome, hstep.kind_eq, List.foldl_cons]
  | stopped => cases houtcome

/-- The kinds of the results settle what is written. -/
theorem Ran.lines_eq {last : Result} {lines : List LogLine}
    (h : Ran stages start (.ok last) lines) : lines = notices start.kind stages := by
  generalize houtcome : (Except.ok last : Except Fault Result) = outcome at h
  induction h with
  | done => rfl
  | onward hstep _ ih =>
      rw [ih houtcome, notices, ← hstep.kind_eq]
      cases hstep with
      | idle hidle => simp [hidle]
      | made hbusy => simp [hbusy]
  | stopped => cases houtcome

/-- A run that fails writes its notices up to the stage that fails, which is named. -/
theorem Ran.exists_failureLine {fault : Fault} {lines : List LogLine}
    (h : Ran stages start (.error fault) lines) :
    ∃ before stage after, stages = before ++ stage :: after ∧
      lines = notices start.kind before ++ [stage.failureLine] := by
  generalize houtcome : (Except.error fault : Except Fault Result) = outcome at h
  induction h with
  | done => cases houtcome
  | @onward stage rest _ _ _ _ _ hstep _ ih =>
      obtain ⟨before, failing, after, rfl, rfl⟩ := ih houtcome
      refine ⟨stage :: before, failing, after, rfl, ?_⟩
      rw [notices, ← hstep.kind_eq]
      cases hstep with
      | idle hidle => simp [hidle]
      | made hbusy => simp [hbusy]
  | @stopped stage rest _ _ _ hstep =>
      cases hstep
      exact ⟨[], stage, rest, rfl, rfl⟩

/-- Charts are drawn with a number for each label, and no stage changes them. -/
theorem Ran.isRectangular {last : Result} {lines : List LogLine}
    (h : Ran stages start (.ok last) lines) (hstart : start.IsRectangular) :
    last.IsRectangular := by
  generalize houtcome : (Except.ok last : Except Fault Result) = outcome at h
  induction h with
  | done =>
      cases houtcome
      exact hstart
  | onward hstep _ ih =>
      cases hstep with
      | idle => exact ih hstart houtcome
      | made _ _ hnumbers => exact ih hnumbers houtcome
  | stopped => cases houtcome

/-- **Nothing comes after a terminal result** but a warning for each stage. -/
theorem on_runAll_of_isTerminal (h : start.kind.isTerminal = true) (stages : List Stage)
    (log : List LogLine) :
    Call.on (runAll stages start) log =
      (.ok start, log ++ stages.map fun stage => stage.notice start.kind) := by
  induction stages generalizing log with
  | nil =>
      rw [List.map_nil, List.append_nil]
      rfl
  | cons stage rest ih =>
      obtain ⟨outcome, lines, hstep, hon⟩ := stepped stage start
      rw [on_runAll_cons, hon]
      cases hstep with
      | idle => simp [ih]
      | made hbusy => simp [not_appliesTo_of_isTerminal h] at hbusy
      | failed hcause => simp [hcause.isTerminal] at h

theorem rank_le_rank_foldl (stages : List Stage) (kind : ResultKind) :
    kind.rank ≤ (stages.foldl kindAfter kind).rank := by
  induction stages generalizing kind with
  | nil => exact Nat.le_refl _
  | cons stage rest ih => exact (rank_le_rank_kindAfter stage kind).trans (ih _)

/-! ## Points of a run -/

/-- The stages lead from `start` to `seen`, and the log to `lines`. -/
def Reaches (stages : List Stage) (start : Result) (log : List LogLine) (seen : Result)
    (lines : List LogLine) : Prop :=
  Call.on (runAll stages start) log = (.ok seen, lines)

theorem Reaches.ran {log lines : List LogLine} {seen : Result}
    (h : Reaches stages start log seen lines) :
    ∃ written, Ran stages start (.ok seen) written ∧ lines = log ++ written := by
  obtain ⟨outcome, written, hran, hon⟩ := Stage.ran stages start
  rw [Reaches, hon] at h
  cases h
  exact ⟨written, hran, rfl⟩

/-- The run goes on from any point of it. -/
theorem Reaches.on_append {log lines : List LogLine} {seen : Result}
    (h : Reaches stages start log seen lines) (rest : List Stage) :
    Call.on (runAll (stages ++ rest) start) log = Call.on (runAll rest seen) lines := by
  rw [on_runAll_append, h]

/-- One more stage. -/
theorem Reaches.on_snoc {log lines : List LogLine} {seen : Result}
    (h : Reaches stages start log seen lines) (stage : Stage) :
    ∃ outcome more, Stepped stage seen outcome more ∧
      Call.on (runAll (stages ++ [stage]) start) log = (outcome, lines ++ more) := by
  obtain ⟨outcome, more, hstep, hon⟩ := stepped stage seen
  refine ⟨outcome, more, hstep, ?_⟩
  rw [h.on_append, on_runAll_cons, hon]
  cases outcome <;> rfl

/-- **A stage that does not apply** leaves the result, with one warning. -/
theorem Reaches.idle {log lines : List LogLine} {seen : Result}
    (h : Reaches stages start log seen lines) (hidle : stage.appliesTo seen.kind = false) :
    Reaches (stages ++ [stage]) start log seen (lines ++ [stage.notice seen.kind]) := by
  obtain ⟨outcome, more, hstep, hon⟩ := h.on_snoc stage
  rw [Reaches, hon]
  cases hstep with
  | idle => rfl
  | made hbusy => simp [hidle] at hbusy
  | failed hcause =>
      cases hcause with
      | timechart => cases hidle
      | exporting hopen => simp [appliesTo, hopen] at hidle

/-- **A stage that applies** makes its kind of result and writes nothing, or it
fails and the run with it. -/
theorem Reaches.busy {log lines : List LogLine} {seen : Result}
    (h : Reaches stages start log seen lines) (hbusy : stage.appliesTo seen.kind = true) :
    (∃ next, Reaches (stages ++ [stage]) start log next lines ∧
      next.kind = stage.kindMade seen.kind) ∨
    ∃ fault, Call.on (runAll (stages ++ [stage]) start) log =
      (.error fault, lines ++ [stage.failureLine]) := by
  obtain ⟨outcome, more, hstep, hon⟩ := h.on_snoc stage
  cases hstep with
  | idle hidle => simp [hbusy] at hidle
  | @made next _ hkind =>
      rw [List.append_nil] at hon
      exact .inl ⟨next, hon, hkind⟩
  | failed => exact .inr ⟨_, hon⟩

/-- A run of stages goes forward, as far as it gets. -/
structure RunsForward (stages : List Stage) (start : Result) (log : List LogLine) : Prop where
  /-- Running more stages is running them on what the first ones come to, and a
  fault of the first ones is the fault of all. -/
  composes : ∀ more, Call.on (runAll (stages ++ more) start) log =
    match Call.on (runAll stages start) log with
    | (.ok seen, lines) => Call.on (runAll more seen) lines
    | (.error fault, lines) => (.error fault, lines)
  /-- Records, then a table, then what is terminal. -/
  forward : ∀ before between after first second lines more,
    stages = before ++ between ++ after → Reaches before start log first lines →
    Reaches (before ++ between) start log second more → first.kind.rank ≤ second.kind.rank
  /-- Statistics and charts over time leave a table exactly as it is. -/
  tables : ∀ before stage after t lines, stages = before ++ stage :: after →
    (∃ s, stage = .stats s) ∨ (∃ s, stage = .timechart s) →
    Reaches before start log (.table t) lines →
    Reaches (before ++ [stage]) start log (.table t) (lines ++ [stage.notice .table])
  /-- From the first terminal result on nothing changes, and nothing fails. -/
  terminal : ∀ before after seen lines, stages = before ++ after →
    Reaches before start log seen lines → seen.kind.isTerminal = true →
    Reaches stages start log seen (lines ++ after.map fun stage => stage.notice seen.kind)
  /-- A stage that does not apply to a kind of result leaves it exactly as it is
  and writes one line, a warning that names the stage. -/
  idle : ∀ before stage after seen lines, stages = before ++ stage :: after →
    Reaches before start log seen lines → stage.appliesTo seen.kind = false →
    Reaches (before ++ [stage]) start log seen (lines ++ [stage.notice seen.kind]) ∧
      WarnsOf (stage.notice seen.kind) stage
  /-- A stage that applies writes no warning. -/
  busy : ∀ before stage after seen lines, stages = before ++ stage :: after →
    Reaches before start log seen lines → stage.appliesTo seen.kind = true →
    (∃ next, Reaches (before ++ [stage]) start log next lines ∧
      next.kind = stage.kindMade seen.kind) ∨
    ∃ fault, Call.on (runAll (before ++ [stage]) start) log =
      (.error fault, lines ++ [stage.failureLine])
  /-- All that is written: a warning for each stage that does not apply, and
  behind them a line for the stage that fails. -/
  written : (∃ last, Reaches stages start log last (log ++ notices start.kind stages)) ∨
    ∃ fault before stage after, stages = before ++ stage :: after ∧
      Call.on (runAll stages start) log =
        (.error fault, log ++ (notices start.kind before ++ [stage.failureLine]))
  /-- Charts that are drawn have a number for each label in each series. -/
  rectangular : start.kind.isTerminal = false → ∀ before after seen lines,
    stages = before ++ after → Reaches before start log seen lines → seen.IsRectangular

/-- **Every run goes forward**, whatever the stages and the result that they
start from. -/
theorem runs_forward (stages : List Stage) (start : Result) (log : List LogLine) :
    RunsForward stages start log where
  composes more := on_runAll_append stages more start log
  forward := by
    intro before between after first second lines more _ hfirst hsecond
    have hbetween : Reaches between first lines second more := by
      rw [Reaches, ← hfirst.on_append]
      exact hsecond
    obtain ⟨_, hran, _⟩ := hbetween.ran
    rw [hran.kind_eq]
    exact rank_le_rank_foldl between first.kind
  tables := by
    intro before stage after t lines _ hstage hbefore
    refine hbefore.idle ?_
    rcases hstage with ⟨s, rfl⟩ | ⟨s, rfl⟩ <;> rfl
  terminal := by
    intro before after seen lines hsplit hbefore hterminal
    rw [Reaches, hsplit, hbefore.on_append, on_runAll_of_isTerminal hterminal]
  idle := by
    intro before stage after seen lines _ hbefore hidle
    exact ⟨hbefore.idle hidle, warnsOf_notice stage seen.kind⟩
  busy := by
    intro before stage after seen lines _ hbefore hbusy
    exact hbefore.busy hbusy
  written := by
    obtain ⟨outcome, lines, hran, hon⟩ := ran stages start
    cases outcome with
    | ok last =>
        refine .inl ⟨last, ?_⟩
        rw [Reaches, hon, hran.lines_eq]
    | error fault =>
        obtain ⟨before, stage, after, hsplit, hlines⟩ := hran.exists_failureLine
        refine .inr ⟨fault, before, stage, after, hsplit, ?_⟩
        rw [hon, hlines]
  rectangular := by
    intro hopen before after seen lines _ hbefore
    have hstart : start.IsRectangular := by
      cases start with
      | logs | table | exported => trivial
      | chart | timechart => cases hopen
    obtain ⟨_, hran, _⟩ := hbefore.ran
    exact hran.isRectangular hstart

/-- Both ways of doing nothing: a table for a chart over time, and anything
behind a chart. -/
example (s : Stats) (t : TimeChartStage) (c : ChartStage) (f : Filter) :
    notices .logs [.stats s, .timechart t, .chart c, .filter f] =
      [⟨.warning, "Stages",
          "timechart does not apply to table results; passing them through unchanged"⟩,
        ⟨.warning, "SearchService", "Skipping filter: chart results are terminal"⟩] := by
  rfl

end Stage

end PipeQuery
