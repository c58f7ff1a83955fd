import TanDialog.Proofs.Dialog.SecondStep

/-!
# How often a dialog is opened

The opening of a dialog is repeated while the passport asks for it, and no more often than the
settings allow. A run ends in one of three ways (`exec_start_iff`): with an exchange that does not
raise the flag, with an exchange that fails, or with the last exchange that is allowed, if that has
raised the flag again. Counted by what happens with the bank (`Costs`), an exchange is one request
and one message at most, and so a run is bounded (`start_restarts`).
-/

namespace TanDialog

namespace Dialog

variable {parties : Parties} {template : Template} {queue : Option MessageQueue}
  {c c' made : Context} {n n' n₀ n₁ : Connection} {k : Nat}

/-! ### How a run ends -/

/-- The ways in which a run that opens a dialog ends. -/
inductive Ends (parties : Parties) (template : Template) (queue : Option MessageQueue)
    (n₀ : Connection) : Except RunError Context → Connection → Prop
  /-- An exchange does not raise the flag. -/
  | opened {k : Nat} {c c' : Context} {n n' : Connection}
      (h : Begins parties template queue n₀ k c n)
      (hattempt : exec (attempt parties template c) n = (.ok c', n')) (hagain : c'.again = false) :
      Ends parties template queue n₀ (.ok c') n'
  /-- An exchange fails. -/
  | failed {k : Nat} {c : Context} {n n' : Connection} {e : RunError}
      (h : Begins parties template queue n₀ k c n)
      (hattempt : exec (attempt parties template c) n = (.error e, n')) :
      Ends parties template queue n₀ (.error e) n'
  /-- The last exchange that is allowed raises the flag. -/
  | exhausted {c c' : Context} {n n' : Connection}
      (h : Begins parties template queue n₀ n₀.session.passport.config.maxRestarts c n)
      (hattempt : exec (attempt parties template c) n = (.ok c', n')) (hagain : c'.again = true) :
      Ends parties template queue n₀
        (.error (.tooManyRestarts n₀.session.passport.config.maxRestarts)) n'

variable {r : Except RunError Context}

theorem Begins.ends {k left : Nat} {c : Context} {n : Connection}
    (h : Begins parties template queue n₀ k c n)
    (hleft : n₀.session.passport.config.maxRestarts - k = left)
    (hrun : exec (negotiate parties template n₀.session.passport.config.maxRestarts left c) n =
      (r, n')) : Ends parties template queue n₀ r n' := by
  have hk := h.exec_start.1
  rw [exec_negotiate] at hrun
  split at hrun
  case h_1 hattempt =>
    obtain ⟨rfl, rfl⟩ := Prod.mk.inj hrun
    exact .failed h hattempt
  case h_2 hattempt =>
    split at hrun
    case isTrue hagain =>
      cases left with
      | zero =>
        obtain rfl : k = n₀.session.passport.config.maxRestarts := by omega
        obtain ⟨rfl, rfl⟩ := Prod.mk.inj hrun
        exact .exhausted h hattempt hagain
      | succ left =>
        -- the flag is taken down, and the next exchange begins
        exact (h.again (by omega) hattempt hagain).ends (by omega) hrun
    case isFalse hagain =>
      obtain ⟨rfl, rfl⟩ := Prod.mk.inj hrun
      exact .opened h hattempt (by simpa using hagain)
termination_by left

/-- A run that opens a dialog ends in one of these ways, and in no other. -/
theorem exec_start_iff :
    exec (start parties template queue) n₀ = (r, n') ↔ Ends parties template queue n₀ r n' := by
  have hfirst : Begins parties template queue n₀ 0 { Context.ofTemplate template with queue } n₀ :=
    .first
  constructor
  · intro hrun
    rw [hfirst.exec_start.2] at hrun
    exact hfirst.ends rfl hrun
  · intro hends
    cases hends with
    | opened h hattempt hagain =>
      rw [h.exec_start.2, exec_negotiate, hattempt]
      exact if_neg (by simp [hagain])
    | failed h hattempt => rw [h.exec_start.2, exec_negotiate, hattempt]
    | exhausted h hattempt hagain =>
      rw [h.exec_start.2, Nat.sub_self, exec_negotiate, hattempt]
      exact if_pos hagain

/-! ### What an exchange does -/

/-- No event is refused for want of restarts. -/
theorem ne_tooManyRestarts_of_exec_fire {e : RunError} {event : Event}
    (h : exec (fire parties event c) n = (.error e, n')) (m : Nat) : e ≠ .tooManyRestarts m := by
  rintro rfl
  rw [exec_fire] at h
  generalize perform (Passport.handle parties.application event c) n.session = o at h
  obtain ⟨⟨_ | _, c'⟩, s⟩ := o
  · cases (Prod.mk.inj h).1
  · cases (Prod.mk.inj h).1

theorem ne_tooManyRestarts_of_exec_exchange {e : RunError} {request : Request} {anonymous : Bool}
    (h : exec (exchange parties request anonymous) n = (.error e, n')) (m : Nat) :
    e ≠ .tooManyRestarts m := by
  rintro rfl
  rw [exec_exchange] at h
  cases hencode : parties.bank.encode n.events request with
  | error cause =>
    rw [hencode] at h
    cases (Prod.mk.inj h).1
  | ok message =>
    rw [hencode] at h
    dsimp only at h
    generalize signed parties anonymous message n.session = o at h
    obtain ⟨_ | sig, s⟩ := o
    · cases (Prod.mk.inj h).1
    · dsimp only at h
      generalize parties.bank.send (.encoded request (.ok message) :: n.events) message sig =
        delivery at h
      cases delivery with
      | replied data => cases (Prod.mk.inj h).1
      | failed cause => cases (Prod.mk.inj h).1
      | stalled => cases (Prod.mk.inj h).1

/-- No exchange of a run fails for want of restarts. -/
theorem ne_tooManyRestarts_of_exec_attempt {e : RunError}
    (h : exec (attempt parties template c) n = (.error e, n')) (m : Nat) :
    e ≠ .tooManyRestarts m := by
  rcases exec_bind_error.mp h with h | ⟨made, n₁, -, h⟩
  · exact ne_tooManyRestarts_of_exec_fire h m
  rcases exec_bind_error.mp h with h | ⟨status, n₂, -, h⟩
  · exact ne_tooManyRestarts_of_exec_exchange h m
  · exact ne_tooManyRestarts_of_exec_fire h m

/-- An exchange that succeeds has encoded one request and sent one message. -/
theorem events_of_exec_attempt_ok (h : exec (attempt parties template c) n = (.ok c', n')) :
    ∃ request message sig data,
      n'.events =
        .sent message sig (.replied data) :: .encoded request (.ok message) :: n.events := by
  obtain ⟨made, n₁, status, n₂, hmade, hreply, hreact⟩ := exec_attempt_ok.mp h
  obtain ⟨message, sig, s, data, -, -, -, -, rfl⟩ := exec_exchange_ok.mp hreply
  refine ⟨openingRequest template made, message, sig, data, ?_⟩
  rw [events_of_exec_fire_ok hreact, afterReply, events_of_exec_fire_ok hmade]

namespace Begins

/-- One request has been encoded for each exchange so far. -/
theorem requests (h : Begins parties template queue n₀ k c n) :
    ∃ events, n.events = events ++ n₀.events ∧
      (events.filterMap BankEvent.request?).length = k := by
  induction h with
  | first => exact ⟨[], rfl, rfl⟩
  | again _ _ hattempt _ ih =>
    obtain ⟨events, hevents, hlength⟩ := ih
    obtain ⟨request, message, sig, data, hsent⟩ := events_of_exec_attempt_ok hattempt
    refine ⟨.sent message sig (.replied data) :: .encoded request (.ok message) :: events, ?_, ?_⟩
    · rw [hsent, hevents]
      rfl
    · exact congrArg (· + 1) hlength

/-- An exchange begins with the flag down. -/
theorem again_eq_false (h : Begins parties template queue n₀ k c n) : c.again = false := by
  cases h <;> rfl

/-- The request of an exchange is made with the flag down. -/
theorem again_made (h : Begins parties template queue n₀ k c n)
    (hmade : exec (fire parties .messageCreated c.clearFields) n = (.ok made, n₁)) :
    made.again = false := by
  rw [exec_fire_messageCreated, inRun_eq_ok] at hmade
  obtain ⟨s, hmade, -⟩ := hmade
  have hagain := h.again_eq_false
  rcases Passport.exec_requestAuthentication_ok hmade with rfl | ⟨id, t, -, -, -, rfl, -⟩
  · exact hagain
  · exact hagain

end Begins

/-- **Bounded restarts.** A run that opens a dialog makes at most one exchange more than the
restarts that the settings allow. It fails for want of restarts exactly if so many exchanges have
all succeeded and raised the flag, and it comes to a context exactly if an exchange within the bound
succeeds without raising the flag, after others that have raised it; then each of these exchanges
has encoded one request. The flag is down whenever a request is made. -/
theorem start_restarts (parties : Parties) (template : Template) (queue : Option MessageQueue)
    (n₀ : Connection) :
    let maxRestarts := n₀.session.passport.config.maxRestarts
    (∃ events, (exec (start parties template queue) n₀).2.events = events ++ n₀.events ∧
      events.countP BankEvent.isEncoding ≤ maxRestarts + 1 ∧
      events.countP BankEvent.isSending ≤ maxRestarts + 1) ∧
    (∀ m n', exec (start parties template queue) n₀ = (.error (.tooManyRestarts m), n') ↔
      m = maxRestarts ∧ ∃ c n c', Begins parties template queue n₀ maxRestarts c n ∧
        exec (attempt parties template c) n = (.ok c', n') ∧ c'.again = true) ∧
    (∀ c' n', exec (start parties template queue) n₀ = (.ok c', n') ↔
      ∃ k c n, k ≤ maxRestarts ∧ Begins parties template queue n₀ k c n ∧
        exec (attempt parties template c) n = (.ok c', n') ∧ c'.again = false ∧
        ∃ events, n'.events = events ++ n₀.events ∧
          (events.filterMap BankEvent.request?).length = k + 1) ∧
    ∀ k c n, Begins parties template queue n₀ k c n →
      c.again = false ∧
      ∀ made n₁, exec (fire parties .messageCreated c.clearFields) n = (.ok made, n₁) →
        made.again = false := by
  intro maxRestarts
  refine ⟨?_, fun m n' => ?_, fun c' n' => ?_, fun k c n h => ?_⟩
  · have hfirst : Begins parties template queue n₀ 0
        { Context.ofTemplate template with queue } n₀ := .first
    rw [hfirst.exec_start.2]
    exact costs_negotiate template maxRestarts maxRestarts _ n₀
  · rw [exec_start_iff]
    constructor
    · intro h
      cases h with
      | failed _ hattempt => exact absurd rfl (ne_tooManyRestarts_of_exec_attempt hattempt m)
      | exhausted h hattempt hagain => exact ⟨rfl, _, _, _, h, hattempt, hagain⟩
    · rintro ⟨rfl, c, n, c', h, hattempt, hagain⟩
      exact .exhausted h hattempt hagain
  · rw [exec_start_iff]
    constructor
    · intro h
      obtain ⟨h, hattempt, hagain⟩ := h
      obtain ⟨events, hevents, hlength⟩ := h.requests
      obtain ⟨request, message, sig, data, hsent⟩ := events_of_exec_attempt_ok hattempt
      refine ⟨_, _, _, h.exec_start.1, h, hattempt, hagain,
        .sent message sig (.replied data) :: .encoded request (.ok message) :: events, ?_, ?_⟩
      · rw [hsent, hevents]
        rfl
      · exact congrArg (· + 1) hlength
    · rintro ⟨k, c, n, -, h, hattempt, hagain, -⟩
      exact .opened h hattempt hagain
  · exact ⟨h.again_eq_false, fun made n₁ hmade => h.again_made hmade⟩

/-! ### A sample run -/

/-- A connection whose settings allow no restart. -/
def impatientConnection : Connection where
  session :=
    { passport := { opticalConnection.session.passport with config := { maxRestarts := 0 } } }

/-- The challenge asks for a second exchange, which is not allowed. -/
theorem start_restarts_sample :
    ∃ n', exec (start challengingParties .start none) impatientConnection =
      (.error (.tooManyRestarts 0), n') := by
  have hattempt : exec (attempt challengingParties .start (Context.ofTemplate .start))
      impatientConnection =
      (.ok (Passport.advance { firstOpening with status := some (.ofData challengeReply) }),
        (exec (attempt challengingParties .start (Context.ofTemplate .start))
          impatientConnection).2) := rfl
  obtain ⟨-, hexhausted, -⟩ := start_restarts challengingParties .start none impatientConnection
  exact ⟨_, (hexhausted 0 _).mpr ⟨rfl, _, _, _, .first, hattempt, rfl⟩⟩

end Dialog

end TanDialog
