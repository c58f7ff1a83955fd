import TanDialog.Passport.Session

/-!
# Running sequences of steps

Effects, actions and the steps of a run have the same shape: a state, and for the latter two a
failure that keeps the state. `perform` runs an effect and `exec` a step that may fail, so that
statements speak of plain pairs. The lemmas carry out a sequence step by step (`exec_bind`), or take
one apart whose outcome is known (`exec_bind_ok`, `exec_bind_error`).
-/

namespace TanDialog

variable {ε σ α β : Type}

/-- The answer of an effect and the state after it. -/
def perform (x : StateM σ α) (s : σ) : α × σ := x.run s

/-- The outcome of a step that may fail and the state after it. -/
def exec (x : ExceptT ε (StateM σ) α) (s : σ) : Except ε α × σ := x.run.run s

@[simp]
theorem perform_pure (a : α) (s : σ) : perform (pure a) s = (a, s) := rfl

theorem perform_bind (x : StateM σ α) (f : α → StateM σ β) (s : σ) :
    perform (x >>= f) s = perform (f (perform x s).1) (perform x s).2 := rfl

@[simp]
theorem perform_run (x : ExceptT ε (StateM σ) α) (s : σ) : perform x.run s = exec x s := rfl

@[simp]
theorem exec_pure (a : α) (s : σ) : exec (pure a : ExceptT ε (StateM σ) α) s = (.ok a, s) := rfl

@[simp]
theorem exec_throw (e : ε) (s : σ) :
    exec (throw e : ExceptT ε (StateM σ) α) s = (.error e, s) := rfl

/-- An effect within an action does not fail. -/
@[simp]
theorem exec_lift (x : StateM σ α) (s : σ) :
    exec (liftM x : ExceptT ε (StateM σ) α) s = (.ok (perform x s).1, (perform x s).2) := rfl

/-- A failing first step ends the sequence in the state that it has reached. -/
theorem exec_bind (x : ExceptT ε (StateM σ) α) (f : α → ExceptT ε (StateM σ) β) (s : σ) :
    exec (x >>= f) s =
      match exec x s with
      | (.ok a, s') => exec (f a) s'
      | (.error e, s') => (.error e, s') := by
  have h : exec (x >>= f) s = exec (ExceptT.mk (ExceptT.bindCont f (exec x s).1)) (exec x s).2 :=
    rfl
  rw [h]
  rcases exec x s with ⟨_ | a, s'⟩ <;> rfl

/-- A sequence has a result exactly if both of its parts have one. -/
theorem exec_bind_ok {x : ExceptT ε (StateM σ) α} {f : α → ExceptT ε (StateM σ) β} {s s' : σ}
    {b : β} :
    exec (x >>= f) s = (.ok b, s') ↔ ∃ a t, exec x s = (.ok a, t) ∧ exec (f a) t = (.ok b, s') := by
  rw [exec_bind]
  constructor
  · intro h
    split at h
    case h_1 a t hx => exact ⟨a, t, hx, h⟩
    case h_2 => simp at h
  · rintro ⟨a, t, hx, hf⟩
    rw [hx]
    exact hf

/-- A sequence fails where its first part fails, or else where the second one does. -/
theorem exec_bind_error {x : ExceptT ε (StateM σ) α} {f : α → ExceptT ε (StateM σ) β} {s s' : σ}
    {e : ε} :
    exec (x >>= f) s = (.error e, s') ↔ exec x s = (.error e, s') ∨
      ∃ a t, exec x s = (.ok a, t) ∧ exec (f a) t = (.error e, s') := by
  rw [exec_bind]
  rcases exec x s with ⟨_ | a, t⟩
  · simp
  · simp only [Prod.mk.injEq, reduceCtorEq, false_and, false_or, Except.ok.injEq]
    constructor
    · intro h
      exact ⟨a, t, ⟨rfl, rfl⟩, h⟩
    · rintro ⟨_, _, ⟨rfl, rfl⟩, h⟩
      exact h

/-- Working on the result does not change the state. -/
theorem exec_bind_pure (x : ExceptT ε (StateM σ) α) (f : α → β) (s : σ) :
    exec (x >>= fun a => pure (f a)) s = ((exec x s).1.map f, (exec x s).2) := by
  rw [exec_bind]
  rcases exec x s with ⟨_ | a, t⟩ <;> rfl

namespace Session

@[simp]
theorem perform_getPassport (s : Session) : perform getPassport s = (s.passport, s) := rfl

@[simp]
theorem perform_modifyPassport (f : Passport → Passport) (s : Session) :
    perform (modifyPassport f) s = ((), { s with passport := f s.passport }) := rfl

@[simp]
theorem perform_call (c : Call) (s : Session) :
    perform (call c) s = ((), { s with calls := c :: s.calls }) := rfl

@[simp]
theorem perform_ask (app : Application) (c : Call) (s : Session) :
    perform (ask app c) s = (app.answer (c :: s.calls), { s with calls := c :: s.calls }) := rfl

end Session

end TanDialog
