import PipeQuery.Run

/-!
# Outcomes of calls and runs

A call is a function from a state to an outcome and the state it leaves
(`Call.on`).  The laws of this file take a `do` block apart one step at a time:
`on_bind_ok` goes on behind a step that answered and `on_bind_error` stops at a
step that failed.  Runs are calls on a world, so the same laws hold of them;
the second half says what the steps of their own come to.
-/

namespace PipeQuery

variable {σ τ α β : Type}

/-! ## Calls -/

namespace Call

/-- What a call comes to in a state, and the state it leaves. -/
def on (x : Call σ α) (s : σ) : Except Fault α × σ := (ExceptT.run x).run s

@[simp]
theorem on_pure (a : α) (s : σ) : on (pure a) s = (.ok a, s) := rfl

@[simp]
theorem on_get (s : σ) : on (get : Call σ σ) s = (.ok s, s) := rfl

theorem on_bind (x : Call σ α) (f : α → Call σ β) (s : σ) :
    on (x >>= f) s =
      match on x s with
      | (.ok a, t) => on (f a) t
      | (.error fault, t) => (.error fault, t) := by
  unfold on ExceptT.run StateT.run
  simp only [bind, ExceptT.bind, ExceptT.mk, StateT.bind, ExceptT.bindCont]
  cases x s with
  | mk outcome t => cases outcome <;> rfl

/-- A step that answered. -/
theorem on_bind_ok {x : Call σ α} {f : α → Call σ β} {s t : σ} {a : α} (h : on x s = (.ok a, t)) :
    on (x >>= f) s = on (f a) t := by
  rw [on_bind, h]

/-- A step that failed. -/
theorem on_bind_error {x : Call σ α} {f : α → Call σ β} {s t : σ} {fault : Fault}
    (h : on x s = (.error fault, t)) : on (x >>= f) s = (.error fault, t) := by
  rw [on_bind, h]

theorem on_tryCatch (x : Call σ α) (handle : Fault → Call σ α) (s : σ) :
    on (tryCatch x handle) s =
      match on x s with
      | (.ok a, t) => (.ok a, t)
      | (.error fault, t) => on (handle fault) t := by
  unfold on ExceptT.run StateT.run
  simp only [tryCatch, tryCatchThe, MonadExceptOf.tryCatch, ExceptT.tryCatch, ExceptT.mk, bind,
    StateT.bind]
  cases x s with
  | mk outcome t => cases outcome <;> rfl

/-- What comes of a call whose answer is only reworded. -/
theorem outcome_map {x : Call σ α} {f : α → Call σ β} (g : α → β) (hf : ∀ a, f a = pure (g a))
    (s : σ) : (on (x >>= f) s).1 = (on x s).1.map g := by
  rw [on_bind]
  cases on x s with
  | mk outcome t =>
      cases outcome with
      | ok a => simp only [hf]; rfl
      | error fault => rfl

end Call

/-- A step that always answers, and what is done with its answer. -/
theorem StateM.run_bind_of_eq {x : StateM σ α} {f : α → StateM σ β} {s t : σ} {a : α}
    (h : x.run s = (a, t)) : (x >>= f).run s = (f a).run t := by
  rw [StateT.run_bind, h]
  rfl

/-! ## Runs -/

namespace Run

theorem on_onState {call : Call σ α} {w : World σ} {outcome : Except Fault α} {s : σ}
    (h : Call.on call w.state = (outcome, s)) :
    Call.on (onState call) w = (outcome, { w with state := s }) := by
  show (match Call.on call w.state with
    | (outcome, part) => (outcome, ({ w with state := part } : World σ))) = _
  rw [h]

theorem on_andLast {x : Run σ α} {last : Run σ Unit} {w v u : World σ}
    {outcome : Except Fault α} (hx : Call.on x w = (outcome, v))
    (hlast : Call.on last v = (.ok (), u)) : Call.on (andLast x last) w = (outcome, u) := by
  show (match Call.on x w with
    | (outcome, w) =>
      match Call.on last w with
      | (.ok _, w) => (outcome, w)
      | (.error fault, w) => (.error fault, w)) = _
  rw [hx]
  simp only [hlast]

theorem on_mapFault_ok {x : Run σ α} {change : Fault → Fault} {w v : World σ} {a : α}
    (h : Call.on x w = (.ok a, v)) : Call.on (mapFault change x) w = (.ok a, v) := by
  show (match Call.on x w with
    | (Except.ok a, w) => (Except.ok a, w)
    | (Except.error fault, w) => (Except.error (change fault), w)) = _
  rw [h]

@[simp]
theorem on_ofExcept (x : Except Fault α) (w : World σ) : Call.on (ofExcept x) w = (x, w) := by
  cases x <;> rfl

@[simp]
theorem on_write (level : LogLevel) (logger message : String) (w : World σ) :
    Call.on (write level logger message) w =
      (.ok (), { w with log := w.log ++ [⟨level, logger, message⟩] }) := rfl

theorem on_ofLogged {x : Logged α} {w : World σ} {outcome : Except Fault α} {log : List LogLine}
    (h : Call.on x w.log = (outcome, log)) :
    Call.on (ofLogged x) w = (outcome, { w with log := log }) := by
  show (match Call.on x w.log with
    | (outcome, log) => (outcome, ({ w with log := log } : World σ))) = _
  rw [h]

theorem outcome_ofLogged (x : Logged α) (w : World σ) :
    (Call.on (ofLogged x) w).1 = (Call.on x w.log).1 :=
  congrArg Prod.fst (on_ofLogged (x := x) (w := w) rfl)

end Run

end PipeQuery
