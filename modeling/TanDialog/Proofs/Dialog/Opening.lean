import TanDialog.Proofs.Dialog.Exchange
import TanDialog.Proofs.Settings

/-!
# Runs that open a dialog

Such a run is a series of exchanges, each of which begins in a context and a connection that the one
before has left (`Begins`). The run goes on from every exchange that it reaches
(`Begins.exec_start`), and the settings of the passport and the credentials of the dialog are the
same throughout.
-/

namespace TanDialog

namespace Dialog

variable {parties : Parties} {c c' : Context} {n n' : Connection}

/-! ### Events within a run -/

/-- An event that an action handles has the outcome of the action. -/
theorem exec_fire_of_handle {e : Event} {action : Action Context}
    (h : Passport.handle parties.application e c = Passport.unlessFailing c action)
    (n : Connection) :
    exec (fire parties e c) n = inRun n (exec action n.session) := by
  rw [exec_fire, h, Passport.unlessFailing, perform_bind, perform_run]
  rcases exec action n.session with ⟨_ | _, s⟩
  · rfl
  · rfl

theorem exec_fire_messageCreated (parties : Parties) (c : Context) (n : Connection) :
    exec (fire parties .messageCreated c) n =
      inRun n (exec (Passport.requestAuthentication parties.application c) n.session) :=
  exec_fire_of_handle rfl n

theorem exec_fire_messageSent (parties : Parties) (c : Context) (n : Connection) :
    exec (fire parties .messageSent c) n =
      inRun n (exec (Passport.react parties.application c) n.session) :=
  exec_fire_of_handle rfl n

/-- An event leaves the settings alone. -/
theorem settings_of_exec_fire_ok {e : Event} (h : exec (fire parties e c) n = (.ok c', n')) :
    n'.session.passport.settings = n.session.passport.settings := by
  obtain ⟨s, hs, rfl⟩ := exec_fire_ok.mp h
  have hevolves := Passport.evolving_handle parties.application e c n.session
  rw [hs] at hevolves
  exact hevolves.settings_eq

/-- An exchange leaves the settings alone. -/
theorem settings_of_exec_exchange_ok {request : Request} {anonymous : Bool} {status : ReplyStatus}
    (h : exec (exchange parties request anonymous) n = (.ok status, n')) :
    n'.session.passport.settings = n.session.passport.settings := by
  obtain ⟨message, sig, s, data, -, hsigned, -, -, rfl⟩ := exec_exchange_ok.mp h
  rw [signed] at hsigned
  split at hsigned
  · exact (Prod.mk.inj hsigned).2 ▸ rfl
  · have hevolves := Passport.evolving_sign parties.application message n.session
    rw [perform_run, hsigned] at hevolves
    exact hevolves.settings_eq

/-! ### The exchanges of a run -/

/-- An exchange of a run consists of preparing the opening, sending it, and reacting to the
reply. -/
theorem exec_attempt_ok {template : Template} :
    exec (attempt parties template c) n = (.ok c', n') ↔
      ∃ made n₁ status n₂,
        exec (fire parties .messageCreated c.clearFields) n = (.ok made, n₁) ∧
        exec (exchange parties (openingRequest template made) made.anonymous) n₁ =
          (.ok status, n₂) ∧
        exec (fire parties .messageSent { made with status := some status }) n₂ = (.ok c', n') := by
  simp only [attempt, exec_bind_ok]
  constructor
  · rintro ⟨made, n₁, hmade, status, n₂, hstatus, hc'⟩
    exact ⟨made, n₁, status, n₂, hmade, hstatus, hc'⟩
  · rintro ⟨made, n₁, status, n₂, hmade, hstatus, hc'⟩
    exact ⟨made, n₁, hmade, status, n₂, hstatus, hc'⟩

/-- Preparing the opening leaves a dialog with credentials or without. -/
theorem anonymous_of_exec_fire_messageCreated {made : Context}
    (h : exec (fire parties .messageCreated c.clearFields) n = (.ok made, n')) :
    made.anonymous = c.anonymous := by
  rw [exec_fire_messageCreated, inRun_eq_ok] at h
  obtain ⟨s, h, -⟩ := h
  rcases Passport.exec_requestAuthentication_ok h with rfl | ⟨_, _, -, -, -, rfl, -⟩ <;> rfl

/-- The reaction to a reply leaves a dialog with credentials or without. -/
theorem anonymous_of_exec_fire_messageSent
    (h : exec (fire parties .messageSent c) n = (.ok c', n')) : c'.anonymous = c.anonymous := by
  rw [exec_fire_messageSent, inRun_eq_ok] at h
  obtain ⟨s, h, -⟩ := h
  exact Passport.anonymous_of_exec_react_ok h

/-- An exchange leaves a dialog with credentials or without. -/
theorem anonymous_of_exec_attempt_ok {template : Template}
    (h : exec (attempt parties template c) n = (.ok c', n')) : c'.anonymous = c.anonymous := by
  obtain ⟨made, n₁, status, n₂, hmade, -, hreact⟩ := exec_attempt_ok.mp h
  have hmade : made.anonymous = c.anonymous := anonymous_of_exec_fire_messageCreated hmade
  exact (anonymous_of_exec_fire_messageSent hreact).trans hmade

/-- The exchange with a number, counted from zero, begins in a context and a connection. -/
inductive Begins (parties : Parties) (template : Template) (queue : Option MessageQueue)
    (n₀ : Connection) : Nat → Context → Connection → Prop
  | first : Begins parties template queue n₀ 0 { Context.ofTemplate template with queue } n₀
  | again {k : Nat} {c c' : Context} {n n' : Connection}
      (h : Begins parties template queue n₀ k c n)
      (hk : k < n₀.session.passport.config.maxRestarts)
      (hattempt : exec (attempt parties template c) n = (.ok c', n')) (hagain : c'.again) :
      Begins parties template queue n₀ (k + 1) { c' with again := false } n'

namespace Begins

variable {template : Template} {queue : Option MessageQueue} {n₀ : Connection} {k : Nat}

/-- **The run goes on.** From an exchange that it reaches, a run goes on with the repetitions that
are left. -/
theorem exec_start (h : Begins parties template queue n₀ k c n) :
    k ≤ n₀.session.passport.config.maxRestarts ∧
      exec (start parties template queue) n₀ =
        exec (negotiate parties template n₀.session.passport.config.maxRestarts
          (n₀.session.passport.config.maxRestarts - k) c) n := by
  induction h with
  | first =>
    refine ⟨Nat.zero_le _, ?_⟩
    rw [start, exec_bind, exec_get]
    rfl
  | @again k c c' n n' _ hk hattempt hagain ih =>
    refine ⟨hk, ih.2.trans ?_⟩
    -- one more repetition is left, and this exchange takes it
    obtain ⟨left, hleft⟩ : ∃ left, n₀.session.passport.config.maxRestarts - k = left + 1 :=
      Nat.exists_eq_succ_of_ne_zero (Nat.sub_ne_zero_of_lt hk)
    have hleft' : n₀.session.passport.config.maxRestarts - (k + 1) = left := by omega
    rw [hleft, hleft', negotiate, exec_bind, hattempt]
    simp only [Context.takeAgain, hagain]
    rfl

/-- The settings of the passport are the same in all exchanges. -/
theorem settings_eq (h : Begins parties template queue n₀ k c n) :
    n.session.passport.settings = n₀.session.passport.settings := by
  induction h with
  | first => rfl
  | again _ _ hattempt _ ih =>
    obtain ⟨made, n₁, status, n₂, hmade, hstatus, hreact⟩ := exec_attempt_ok.mp hattempt
    rw [settings_of_exec_fire_ok hreact, settings_of_exec_exchange_ok hstatus,
      settings_of_exec_fire_ok hmade, ih]

/-- Whether the dialog has credentials depends on its template alone. -/
theorem anonymous_eq (h : Begins parties template queue n₀ k c n) :
    c.anonymous = (template == .startAnonymous) := by
  induction h with
  | first => rfl
  | again _ _ hattempt _ ih => exact (anonymous_of_exec_attempt_ok hattempt).trans ih

end Begins

end Dialog

end TanDialog
