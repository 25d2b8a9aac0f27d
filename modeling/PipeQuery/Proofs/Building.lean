import Mathlib.Data.List.Forall2
import PipeQuery.Proofs.Outcome
import PipeQuery.Stage.Basic

/-!
# Building stages

All stages of a query are built, from left to right, before anything runs.
Building writes warnings, but it does not look at what was written before
(`Logged.Appends`), so what comes of a stage is a matter of that stage alone.

* `Stage.outcome_buildAll`: what comes of all stages is what comes of each of
  them, up to the first that is refused.
* `Stage.buildAll_eq_error_iff`: the stages are not built if and only if one of
  them is not, and the fault is that of the leftmost such stage.
-/

namespace PipeQuery

variable {α β : Type}

namespace Logged

/-- Writes behind the log that it finds, and does not look at it. -/
def Appends (x : Logged α) : Prop := ∀ log, Call.on x log = (x.outcome.1, log ++ x.outcome.2)

theorem Appends.of_eq {x : Logged α} (outcome : Except Fault α) (lines : List LogLine)
    (h : ∀ log, Call.on x log = (outcome, log ++ lines)) : x.Appends := by
  intro log
  have houtcome : x.outcome = (outcome, [] ++ lines) := h []
  rw [houtcome, h log, List.nil_append]

theorem appends_pure (a : α) : Appends (pure a) :=
  .of_eq _ [] fun log => by rw [List.append_nil]; rfl

theorem appends_throw (fault : Fault) : Appends (throw fault : Logged α) :=
  .of_eq _ [] fun log => by rw [List.append_nil]; rfl

theorem appends_write (level : LogLevel) (logger message : String) :
    Appends (write level logger message) :=
  .of_eq _ [⟨level, logger, message⟩] fun _ => rfl

theorem appends_ofExcept (x : Except Fault α) : Appends (ofExcept x) := by
  cases x with
  | ok a => exact appends_pure a
  | error fault => exact appends_throw fault

/-- One after the other. -/
theorem Appends.bind {x : Logged α} {f : α → Logged β} (hx : x.Appends)
    (hf : ∀ a, (f a).Appends) : Appends (x >>= f) := by
  generalize hrun : x.outcome = run
  obtain ⟨outcome, lines⟩ := run
  have hstep : ∀ log, Call.on x log = (outcome, log ++ lines) := fun log => by rw [hx log, hrun]
  cases outcome with
  | ok a =>
      refine .of_eq (f a).outcome.1 (lines ++ (f a).outcome.2) fun log => ?_
      rw [Call.on_bind_ok (hstep log), hf a, List.append_assoc]
  | error fault =>
      exact .of_eq (.error fault) _ fun log => Call.on_bind_error (hstep log)

/-- What comes of a computation does not depend on what was written before. -/
theorem Appends.outcome_eq {x : Logged α} (hx : x.Appends) (log : List LogLine) :
    (Call.on x log).1 = x.outcome.1 := by
  rw [hx log]

theorem outcome_bind {x : Logged α} {f : α → Logged β} (hf : ∀ a, (f a).Appends) :
    (x >>= f).outcome.1 = x.outcome.1.bind fun a => (f a).outcome.1 := by
  show (Call.on (x >>= f) []).1 = (Call.on x []).1.bind _
  rw [Call.on_bind]
  cases Call.on x [] with
  | mk outcome log =>
      cases outcome with
      | ok a => exact (hf a).outcome_eq log
      | error fault => rfl

@[simp]
theorem outcome_ofExcept (x : Except Fault α) : (ofExcept x).outcome.1 = x := by
  cases x <;> rfl

/-- A result that is only put into another form. -/
theorem outcome_map_ofExcept (f : α → β) (x : Except Fault α) :
    (do return f (← ofExcept x) : Logged β).outcome.1 = x.map f := by
  rw [outcome_bind fun _ => appends_pure _, outcome_ofExcept]
  cases x <;> rfl

end Logged

/-! ## Charts over time -/

namespace TimeChartStage

theorem appends_readSpan (span : Option String) : (readSpan span).Appends := by
  unfold readSpan
  cases span with
  | none => exact Logged.appends_pure _
  | some text =>
      simp only
      split
      · exact Logged.appends_pure _
      · split
        · exact Logged.appends_throw _
        · split
          · exact Logged.appends_throw _
          · split
            · exact Logged.appends_throw _
            · split
              · exact Logged.appends_pure _
              · exact (Logged.appends_write _ _ _).bind fun _ => Logged.appends_pure _

theorem appends_create [Platform] (span : Option String) (aggregations : List String)
    (splitBy : Option String) (timezone : String) :
    (create span aggregations splitBy timezone).Appends := by
  unfold create
  split
  · exact Logged.appends_throw _
  · have hspan := fun zone : Zone => (appends_readSpan span).bind fun millis =>
      Logged.appends_pure (⟨millis, splitBy, zone, timezone, aggregations⟩ : TimeChartStage)
    simp only
    split
    · exact (Logged.appends_write _ _ _).bind fun _ => hspan _
    · exact hspan _

/-- The span that is asked for. -/
def spanText (spec : StageSpec) : String := (spec.param? "span").getD defaultSpan

/-- What comes of a chart over time is what comes of its zone and its span. -/
theorem outcome_build [Platform] (spec : StageSpec) (timezone : String) :
    (build spec timezone).outcome.1 =
      match Platform.zone? timezone with
      | none => .error (.argument (.timezone timezone))
      | some zone => (readSpan (some (spanText spec))).outcome.1.map fun millis =>
          ⟨millis, (Grouping.ofArgs true spec.args).fields.head?, zone, timezone,
            (Grouping.ofArgs true spec.args).aggregations⟩ := by
  unfold build create spanText
  cases Platform.zone? timezone with
  | none => rfl
  | some zone =>
      have hspan : (do
          let millis ← readSpan (some ((spec.param? "span").getD defaultSpan))
          return ⟨millis, (Grouping.ofArgs true spec.args).fields.head?, zone, timezone,
            (Grouping.ofArgs true spec.args).aggregations⟩ : Logged TimeChartStage).outcome.1 =
          (readSpan (some ((spec.param? "span").getD defaultSpan))).outcome.1.map fun millis =>
            ⟨millis, (Grouping.ofArgs true spec.args).fields.head?, zone, timezone,
              (Grouping.ofArgs true spec.args).aggregations⟩ := by
        rw [Logged.outcome_bind fun _ => Logged.appends_pure _]
        rfl
      dsimp only
      split
      · rw [Logged.outcome_bind fun _ =>
          (appends_readSpan _).bind fun _ => Logged.appends_pure _]
        exact hspan
      · exact hspan

end TimeChartStage

/-! ## Stages -/

namespace Stage

theorem appends_build [Platform] (timezone : String) (spec : StageSpec) :
    (build timezone spec).Appends := by
  have hexcept : ∀ {α : Type} (f : α → Stage) (x : Except Fault α),
      (do return f (← Logged.ofExcept x) : Logged Stage).Appends :=
    fun f x => (Logged.appends_ofExcept x).bind fun _ => Logged.appends_pure _
  unfold build
  split
  · exact hexcept _ _
  · exact hexcept _ _
  · exact hexcept _ _
  · exact hexcept _ _
  · exact (TimeChartStage.appends_create _ _ _ _).bind fun _ => Logged.appends_pure _
  · exact hexcept _ _
  · exact Logged.appends_throw _

theorem appends_buildAll [Platform] (timezone : String) (specs : List StageSpec) :
    (buildAll timezone specs).Appends := by
  induction specs with
  | nil => exact Logged.appends_pure _
  | cons spec rest ih =>
      exact (appends_build timezone spec).bind fun _ => ih.bind fun _ => Logged.appends_pure _

/-- What comes of a stage as it is written. -/
def built [Platform] (timezone : String) (spec : StageSpec) : Except Fault Stage :=
  (build timezone spec).outcome.1

section Commands

variable [Platform] {command : String} (timezone : String) (args : List String)
  (params : OrderedMap String String)

theorem built_filter (h : Text.lower command = "filter") :
    built timezone ⟨command, args, params⟩ =
      (Filter.build ⟨command, args, params⟩).map .filter := by
  unfold built build
  rw [h]
  exact Logged.outcome_map_ofExcept ..

theorem built_transform (h : Text.lower command = "transform") :
    built timezone ⟨command, args, params⟩ =
      (Transform.build ⟨command, args, params⟩).map .transform := by
  unfold built build
  rw [h]
  exact Logged.outcome_map_ofExcept ..

theorem built_stats (h : Text.lower command = "stats") :
    built timezone ⟨command, args, params⟩ = (Stats.build ⟨command, args, params⟩).map .stats := by
  unfold built build
  rw [h]
  exact Logged.outcome_map_ofExcept ..

theorem built_timechart (h : Text.lower command = "timechart") :
    built timezone ⟨command, args, params⟩ =
      (TimeChartStage.build ⟨command, args, params⟩ timezone).outcome.1.map .timechart := by
  unfold built build
  rw [h]
  refine (Logged.outcome_bind fun _ => Logged.appends_pure _).trans ?_
  cases (TimeChartStage.build ⟨command, args, params⟩ timezone).outcome.1 <;> rfl

end Commands

/-- **What comes of all stages** is what comes of each of them, from the left. -/
theorem outcome_buildAll [Platform] (timezone : String) (specs : List StageSpec) :
    (buildAll timezone specs).outcome.1 = specs.mapM (built timezone) := by
  induction specs with
  | nil => rfl
  | cons spec rest ih =>
      have hrest : ∀ stage, (do return stage :: (← buildAll timezone rest) :
          Logged (List Stage)).Appends :=
        fun _ => (appends_buildAll timezone rest).bind fun _ => Logged.appends_pure _
      rw [buildAll, Logged.outcome_bind hrest, List.mapM_cons, ← ih]
      show (built timezone spec).bind _ = (built timezone spec).bind _
      cases built timezone spec with
      | error fault => rfl
      | ok stage =>
          show (do return stage :: (← buildAll timezone rest) : Logged (List Stage)).outcome.1 = _
          rw [Logged.outcome_bind fun _ => Logged.appends_pure _]
          rfl

/-- Stages are built if each of them is. -/
theorem on_buildAll_of_built [Platform] {timezone : String} {specs : List StageSpec}
    {stages : List Stage}
    (h : List.Forall₂ (fun spec stage => built timezone spec = .ok stage) specs stages)
    (log : List LogLine) :
    ∃ lines, Call.on (buildAll timezone specs) log = (.ok stages, lines) := by
  have hfirst : (Call.on (buildAll timezone specs) log).1 = .ok stages := by
    rw [(appends_buildAll timezone specs).outcome_eq, outcome_buildAll]
    induction h with
    | nil => rfl
    | cons hstage _ ih =>
        rw [List.mapM_cons, hstage, ih]
        rfl
  generalize Call.on (buildAll timezone specs) log = run at hfirst ⊢
  exact ⟨run.2, Prod.ext hfirst rfl⟩

end Stage

/-! ## The leftmost fault -/

namespace Except

variable {ε : Type}

/-- Whether a computation fails with a fault can be told, whatever it gives
otherwise. -/
instance decidableEqError [DecidableEq ε] (x : Except ε α) (fault : ε) :
    Decidable (x = .error fault) :=
  match x with
  | .ok _ => isFalse nofun
  | .error fault' => decidable_of_iff (fault' = fault) ⟨congrArg _, Except.error.inj⟩

theorem exists_of_map_eq_ok {x : Except ε α} {g : α → β} {b : β} (h : x.map g = .ok b) :
    ∃ a, x = .ok a ∧ g a = b := by
  cases x with
  | ok a =>
      cases h
      exact ⟨a, rfl, rfl⟩
  | error fault => cases h

variable {f : α → Except ε β} {items : List α}

/-- A list is mapped item by item. -/
theorem map_of_mapM_eq_ok {found : List β} (h : items.mapM f = .ok found) :
    items.map f = found.map .ok := by
  induction items generalizing found with
  | nil =>
      cases h
      rfl
  | cons a rest ih =>
      rw [List.mapM_cons] at h
      cases hfirst : f a with
      | error fault =>
          rw [hfirst] at h
          cases h
      | ok b =>
          cases hrest : rest.mapM f with
          | error fault =>
              rw [hfirst, hrest] at h
              cases h
          | ok found' =>
              rw [hfirst, hrest] at h
              cases h
              rw [List.map_cons, hfirst, ih hrest, List.map_cons]

theorem length_of_mapM_eq_ok {found : List β} (h : items.mapM f = .ok found) :
    found.length = items.length := by
  simpa using congrArg List.length (map_of_mapM_eq_ok h).symm

/-- A list is mapped to what its items are mapped to, and to nothing else. -/
theorem mem_of_mapM_eq_ok {found : List β} (h : items.mapM f = .ok found) :
    (∀ a ∈ items, ∃ b ∈ found, f a = .ok b) ∧ ∀ b ∈ found, ∃ a ∈ items, f a = .ok b := by
  have hmap := map_of_mapM_eq_ok h
  constructor
  · intro a ha
    have hmem : f a ∈ found.map .ok := hmap ▸ List.mem_map_of_mem ha
    obtain ⟨b, hb, hab⟩ := List.mem_map.1 hmem
    exact ⟨b, hb, hab.symm⟩
  · intro b hb
    have hmem : .ok b ∈ items.map f := hmap ▸ List.mem_map_of_mem hb
    exact List.mem_map.1 hmem

/-- What is read back from each image is what is read from its item. -/
theorem map_read_of_mapM_eq_ok {γ : Type} {read : β → γ} (item : α → γ) {found : List β}
    (hread : ∀ a ∈ items, ∀ b, f a = .ok b → read b = item a) (h : items.mapM f = .ok found) :
    found.map read = items.map item := by
  refine List.ext_getElem (by simp [length_of_mapM_eq_ok h]) fun i hfound hitems => ?_
  rw [List.length_map] at hfound hitems
  have hi : (items.map f)[i]? = (found.map .ok)[i]? := by rw [map_of_mapM_eq_ok h]
  rw [List.getElem?_map, List.getElem?_map, List.getElem?_eq_getElem hitems,
    List.getElem?_eq_getElem hfound] at hi
  rw [List.getElem_map, List.getElem_map]
  exact hread _ (List.getElem_mem hitems) _ (Option.some.inj hi)

/-- A list is not mapped if and only if some item is not, and the fault is that
of the leftmost one. -/
theorem mapM_eq_error_iff {fault : ε} :
    items.mapM f = .error fault ↔
      ∃ before a behind, items = before ++ a :: behind ∧ (∀ b ∈ before, ∃ c, f b = .ok c) ∧
        f a = .error fault := by
  induction items with
  | nil =>
      refine iff_of_false (by intro h; cases h) ?_
      rintro ⟨before, a, behind, hsplit, _⟩
      simp at hsplit
  | cons a rest ih =>
      rw [List.mapM_cons]
      cases hfirst : f a with
      | error fault' =>
          constructor
          · intro h
            cases h
            exact ⟨[], a, rest, rfl, by simp, hfirst⟩
          · rintro ⟨before, a', behind, hsplit, hbefore, hfault⟩
            cases before with
            | nil =>
                obtain ⟨rfl, rfl⟩ := List.cons.inj hsplit
                rw [hfirst] at hfault
                cases hfault
                rfl
            | cons b before =>
                -- the first item would have to be mapped
                obtain ⟨c, hc⟩ := hbefore b (List.mem_cons_self ..)
                obtain ⟨rfl, _⟩ := List.cons.inj hsplit
                rw [hfirst] at hc
                cases hc
      | ok c =>
          have hrest : ((do return c :: (← rest.mapM f) : Except ε (List β)) = .error fault) ↔
              rest.mapM f = .error fault := by
            cases rest.mapM f with
            | error fault' => exact Iff.rfl
            | ok found => exact iff_of_false (by intro h; cases h) (by intro h; cases h)
          refine hrest.trans (ih.trans ?_)
          constructor
          · rintro ⟨before, a', behind, rfl, hbefore, hfault⟩
            refine ⟨a :: before, a', behind, rfl, ?_, hfault⟩
            intro b hb
            rcases List.mem_cons.1 hb with rfl | hb
            · exact ⟨c, hfirst⟩
            · exact hbefore b hb
          · rintro ⟨before, a', behind, hsplit, hbefore, hfault⟩
            cases before with
            | nil =>
                obtain ⟨rfl, rfl⟩ := List.cons.inj hsplit
                rw [hfirst] at hfault
                cases hfault
            | cons b before =>
                obtain ⟨rfl, hrest'⟩ := List.cons.inj hsplit
                exact ⟨before, a', behind, hrest',
                  fun b' hb' => hbefore b' (List.mem_cons_of_mem _ hb'), hfault⟩

end Except

/-- **Building fails with the fault of the leftmost stage that is not built.** -/
theorem Stage.buildAll_eq_error_iff [Platform] {timezone : String} {specs : List StageSpec}
    {fault : Fault} (log : List LogLine) :
    (Call.on (buildAll timezone specs) log).1 = .error fault ↔
      ∃ before spec behind, specs = before ++ spec :: behind ∧
        (∀ b ∈ before, ∃ stage, built timezone b = .ok stage) ∧
        built timezone spec = .error fault := by
  rw [(appends_buildAll timezone specs).outcome_eq, outcome_buildAll, Except.mapM_eq_error_iff]

/-- Every stage that is written is built, and every stage that is built comes of
one that is written. -/
theorem Stage.built_of_buildAll [Platform] {timezone : String} {specs : List StageSpec}
    {stages : List Stage} {log : List LogLine} (h : (Call.on (buildAll timezone specs) log).1 = .ok stages) :
    (∀ spec ∈ specs, ∃ stage ∈ stages, built timezone spec = .ok stage) ∧
    ∀ stage ∈ stages, ∃ spec ∈ specs, built timezone spec = .ok stage := by
  rw [(appends_buildAll timezone specs).outcome_eq, outcome_buildAll] at h
  exact Except.mem_of_mapM_eq_ok h

end PipeQuery
