import TanDialog.Proofs.Authentication.Steps
import TanDialog.Proofs.Dialog.Restarts

/-!
# Dialogs without credentials

A dialog has no credentials if it is opened by the anonymous template, or if the passport has none.
Then the opening is sent once and unsigned, whatever the bank replies (`anonymous_start`): signing
is skipped, the reaction takes over the allowed methods without checking the method in use, and it
gives up the authentication instead of taking a challenge. So nothing raises the flag that would
repeat the opening. In the course of that the user is not asked for the PIN or a TAN, and the
challenge is left alone (`Session.Discreet`); the user may still be asked for a method or a medium,
since the request that goes with the opening is made all the same.
-/

namespace TanDialog

/-! ### Sessions that keep from secrets -/

/-- A list has grown at its front, by elements with a property. -/
def GrownBy {α : Type} (P : α → Prop) (l l' : List α) : Prop :=
  ∃ new, l' = new ++ l ∧ ∀ a ∈ new, P a

namespace GrownBy

variable {α : Type} {P : α → Prop} {l l' l'' : List α} {a : α}

theorem refl (l : List α) : GrownBy P l l := ⟨[], rfl, by simp⟩

theorem cons (ha : P a) (h : GrownBy P l l') : GrownBy P l (a :: l') := by
  obtain ⟨new, rfl, hnew⟩ := h
  exact ⟨a :: new, rfl, List.forall_mem_cons.mpr ⟨ha, hnew⟩⟩

theorem trans (h : GrownBy P l l') (h' : GrownBy P l' l'') : GrownBy P l l'' := by
  obtain ⟨new, rfl, hnew⟩ := h
  obtain ⟨new', rfl, hnew'⟩ := h'
  exact ⟨new' ++ new, (List.append_assoc ..).symm, List.forall_mem_append.mpr ⟨hnew', hnew⟩⟩

end GrownBy

/-- Whether a call asks the user for the PIN or a TAN. -/
def Call.asksForSecret : Call → Bool
  | .requestPin | .requestTan .. => true
  | _ => false

theorem Call.asksForSecret_of_not_aboutSecrets {c : Call} (h : c.aboutSecrets = false) :
    c.asksForSecret = false := by
  cases c <;> first | rfl | cases h

/-- Between two sessions the challenge stays as it is, and the user is not asked for the PIN or a
TAN. -/
structure Session.Discreet (s s' : Session) : Prop where
  challenge : s'.passport.challenge = s.passport.challenge
  calls : GrownBy (·.asksForSecret = false) s.calls s'.calls

namespace Session.Discreet

variable {s t s' : Session}

theorem refl (s : Session) : s.Discreet s := ⟨rfl, .refl _⟩

theorem trans (h : s.Discreet t) (h' : t.Discreet s') : s.Discreet s' :=
  ⟨h'.challenge.trans h.challenge, h.calls.trans h'.calls⟩

/-- A call about something else is discreet. -/
theorem call (s : Session) {c : Call} (h : c.asksForSecret = false) :
    s.Discreet { s with calls := c :: s.calls } := ⟨rfl, .cons h (.refl _)⟩

/-- Whatever happens to the rest of the passport is discreet. -/
theorem of_challenge_eq {p : Passport} (h : p.challenge = s.passport.challenge) :
    s.Discreet { s with passport := p } := ⟨h, .refl _⟩

end Session.Discreet

/-- The routine of a passport is discreet. -/
theorem routine_discreet : Routine Session.Discreet where
  refl := .refl
  trans h h' := h.trans h'
  call s {_} hc := .call s (Call.asksForSecret_of_not_aboutSecrets hc)
  lookUp s code := .of_challenge_eq (routine_spares.lookUp s code).challenge
  takeMethod _ _ _ := .of_challenge_eq rfl
  enroll s methods := .of_challenge_eq (routine_spares.enroll s methods).challenge

/-! ### The reaction without credentials -/

namespace Passport

variable {app : Application} {c : Context} {s : Session}

theorem discreet_forgetRefusedPin (c : Context) :
    Within Session.Discreet (forgetRefusedPin c) := by
  intro s
  rw [forgetRefusedPin]
  split
  · exact .trans (.of_challenge_eq (p := { s.passport with pin := none }) rfl) (.call _ rfl)
  · exact .refl s

/-- Without credentials a reaction never fails. It raises no flag, and gives up the authentication
if there is one. -/
theorem exec_react_of_anonymous (app : Application)
    (h : c.anonymous = true ∨ s.passport.anonymous = true) :
    ∃ step s', exec (react app c) s = (.ok { c with step }, s') ∧ s.Discreet s' ∧
      (step = c.step ∨ step = none) ∧ (c.authenticates → c.status.isSome → step = none) := by
  have hforget := discreet_forgetRefusedPin c s
  obtain ⟨pin, calls, ht⟩ := perform_forgetRefusedPin c s
  rw [ht] at hforget
  -- the allowed methods are taken over, and the method in use is not checked against them
  have hallowed : exec (checkAllowedMethods app c) { passport := { s.passport with pin }, calls } =
      (.ok c, { passport := enrolledFrom c { s.passport with pin }, calls }) := by
    rw [exec_checkAllowedMethods]
    refine if_neg ?_
    rintro ⟨-, hcontext, hpassport, -⟩
    rcases h with h | h
    · rw [h] at hcontext
      cases hcontext
    · rw [h] at hpassport
      cases hpassport
  have hchecked := routine_discreet.checkAllowedMethods app c
    { passport := { s.passport with pin }, calls }
  rw [perform_run, hallowed] at hchecked
  obtain ⟨calls', hids⟩ :=
    perform_reportChangedIds c { passport := enrolledFrom c { s.passport with pin }, calls }
  have hreported := routine_discreet.reportChangedIds c
    { passport := enrolledFrom c { s.passport with pin }, calls }
  rw [hids] at hreported
  obtain ⟨step, hreceive, hstep, hgiven⟩ := perform_receiveChallenge_of_not_ready
    (c := c) (s := { passport := enrolledFrom c { s.passport with pin }, calls := calls' })
    (h.imp_right fun hpassport => .inl ((anonymous_enrolledFrom c _).trans hpassport))
  refine ⟨step, _, ?_, (hforget.trans hchecked).trans hreported, hstep.imp_right (·.1), hgiven⟩
  simp only [react, exec_bind, exec_lift, ht, hallowed, hids, hreceive]

end Passport

/-! ### A dialog without credentials -/

/-- The event is none by which a signed message is sent. -/
def BankEvent.Unsigned (e : BankEvent) : Prop :=
  ∀ message sig delivery, e = .sent message sig delivery → sig = ""

/-- Between two connections the session keeps from secrets, and no message is signed. -/
structure Connection.Discreet (n n' : Connection) : Prop where
  session : n.session.Discreet n'.session
  events : GrownBy BankEvent.Unsigned n.events n'.events

namespace Connection.Discreet

variable {n n' n'' : Connection}

theorem of_session {s : Session} (h : n.session.Discreet s) : n.Discreet { n with session := s } :=
  ⟨h, .refl _⟩

theorem trans (h : n.Discreet n') (h' : n'.Discreet n'') : n.Discreet n'' :=
  ⟨h.session.trans h'.session, h.events.trans h'.events⟩

end Connection.Discreet

namespace Dialog

variable {parties : Parties} {template : Template} {c c' made : Context} {n n' : Connection}

theorem signed_of_anonymous {anonymous : Bool} (message : List UInt8) {s : Session}
    (h : anonymous = true ∨ s.passport.anonymous = true) :
    signed parties anonymous message s = (.ok "", s) :=
  if_pos (Bool.or_eq_true _ _ ▸ h)

/-- Without credentials a message is sent unsigned. -/
theorem discreet_exchange (parties : Parties) (request : Request) {anonymous : Bool}
    (h : anonymous = true ∨ n.session.passport.anonymous = true) :
    n.Discreet (exec (exchange parties request anonymous) n).2 := by
  have hencoded (outcome : Except TransportError (List UInt8)) :
      BankEvent.Unsigned (.encoded request outcome) := nofun
  rw [exec_exchange]
  cases parties.bank.encode n.events request with
  | error e => exact ⟨.refl _, .cons (hencoded _) (.refl _)⟩
  | ok message =>
    simp only [signed_of_anonymous message h]
    refine ⟨.refl _, .cons ?_ (.cons (hencoded _) (.refl _))⟩
    rintro _ _ _ ⟨⟩
    rfl

/-- Preparing the opening is discreet, with credentials or without. -/
theorem discreet_messageCreated (parties : Parties) (c : Context) (n : Connection) :
    n.Discreet (exec (fire parties .messageCreated c) n).2 := by
  rw [exec_fire_messageCreated, snd_inRun]
  exact .of_session (routine_discreet.requestAuthentication parties.application c n.session)

/-- Without credentials the reaction to a reply is discreet. -/
theorem discreet_messageSent (parties : Parties)
    (h : c.anonymous = true ∨ n.session.passport.anonymous = true) :
    n.Discreet (exec (fire parties .messageSent c) n).2 := by
  obtain ⟨step, s, hreact, hdiscreet, -⟩ := Passport.exec_react_of_anonymous parties.application h
  rw [exec_fire_messageSent, snd_inRun, hreact]
  exact .of_session hdiscreet

/-- Whether there are credentials does not change while the opening is prepared. -/
theorem anonymous_of_messageCreated
    (h : exec (fire parties .messageCreated c.clearFields) n = (.ok made, n'))
    (hanon : c.anonymous = true ∨ n.session.passport.anonymous = true) :
    made.anonymous = true ∨ n'.session.passport.anonymous = true := by
  have hpassport : n'.session.passport.anonymous = n.session.passport.anonymous :=
    congrArg Settings.anonymous (settings_of_exec_fire_ok h)
  rw [anonymous_of_exec_fire_messageCreated h, hpassport]
  exact hanon

theorem discreet_attempt (parties : Parties) (template : Template)
    (h : c.anonymous = true ∨ n.session.passport.anonymous = true) :
    n.Discreet (exec (attempt parties template c) n).2 := by
  have hcreated := discreet_messageCreated parties c.clearFields n
  rw [attempt, exec_bind]
  rcases hmade : exec (fire parties .messageCreated c.clearFields) n with ⟨e | made, n₁⟩
  · rw [hmade] at hcreated
    exact hcreated
  rw [hmade] at hcreated
  have hanon := anonymous_of_messageCreated hmade h
  have hexchanged := discreet_exchange parties (openingRequest template made) hanon
  simp only [exec_bind]
  rcases hstatus : exec (exchange parties (openingRequest template made) made.anonymous) n₁ with
    ⟨e | status, n₂⟩
  · rw [hstatus] at hexchanged
    exact hcreated.trans hexchanged
  · rw [hstatus] at hexchanged
    have hpassport : n₂.session.passport.anonymous = n₁.session.passport.anonymous :=
      congrArg Settings.anonymous (settings_of_exec_exchange_ok hstatus)
    exact (hcreated.trans hexchanged).trans
      (discreet_messageSent parties (by rw [hpassport]; exact hanon))

/-- Preparing the opening raises no flag, and begins an authentication only where there is one. -/
theorem step_of_messageCreated
    (h : exec (fire parties .messageCreated c.clearFields) n = (.ok made, n')) :
    made.again = c.again ∧ (made.authenticates = false → made.step = c.step) := by
  rw [exec_fire_messageCreated, inRun_eq_ok] at h
  obtain ⟨s, h, -⟩ := h
  rcases Passport.exec_requestAuthentication_ok h with rfl | ⟨id, t, -, hauth, -, rfl, -⟩
  · exact ⟨rfl, fun _ => rfl⟩
  · refine ⟨rfl, fun hnot => ?_⟩
    rw [Context.authenticates, Passport.template?_withRequest] at hnot
    exact absurd hauth (by rw [Context.authenticates, hnot]; decide)

/-- Without credentials an exchange that succeeds has sent one message, does not raise the flag, and
leaves no authentication under way. -/
theorem exec_attempt_ok_of_anonymous
    (hanon : c.anonymous = true ∨ n.session.passport.anonymous = true) (hstep : c.step = none)
    (h : exec (attempt parties template c) n = (.ok c', n')) :
    (∃ request message data, n'.events =
      .sent message "" (.replied data) :: .encoded request (.ok message) :: n.events) ∧
    c'.step = none ∧ c'.again = c.again := by
  obtain ⟨made, n₁, status, n₂, hmade, hstatus, hreact⟩ := exec_attempt_ok.mp h
  have hanon := anonymous_of_messageCreated hmade hanon
  obtain ⟨message, sig, s, data, -, hsigned, -, -, rfl⟩ := exec_exchange_ok.mp hstatus
  rw [signed_of_anonymous message hanon] at hsigned
  obtain ⟨hsig, rfl⟩ := Prod.mk.inj hsigned
  obtain rfl := Except.ok.inj hsig
  refine ⟨⟨openingRequest template made, message, data, ?_⟩, ?_⟩
  · rw [events_of_exec_fire_ok hreact, afterReply, events_of_exec_fire_ok hmade]
  · obtain ⟨hagain, hkept⟩ := step_of_messageCreated hmade
    obtain ⟨step, t, hrun, -, hsame, hgiven⟩ := Passport.exec_react_of_anonymous
      (c := { made with status := some status })
      (s := (afterReply n₁ n₁.session (openingRequest template made) message "" data).session)
      parties.application hanon
    rw [exec_fire_messageSent, hrun] at hreact
    obtain rfl := Except.ok.inj (Prod.mk.inj hreact).1
    refine ⟨?_, hagain⟩
    cases hauth : made.authenticates with
    | true => exact hgiven hauth rfl
    | false =>
      -- where there is no authentication, none has begun
      rcases hsame with hsame | hnone
      · exact hsame.trans ((hkept hauth).trans hstep)
      · exact hnone

/-- **Dialogs without credentials.** Let a dialog be opened by the anonymous template, or with a
passport that has no credentials, under whatever template. However the run ends, the user has not
been asked for the PIN or a TAN, the challenge is what it was, and no message has been signed. If
the run comes to a context, there has been exactly one exchange; no authentication is under way and
the flag that repeats the opening is down, whatever the reply has said. -/
theorem anonymous_start (parties : Parties) (template : Template) (queue : Option MessageQueue)
    (n : Connection)
    (hanon : template = .startAnonymous ∨ n.session.passport.anonymous = true) :
    let run := exec (start parties template queue) n
    n.Discreet run.2 ∧
      ∀ c, run.1 = .ok c →
        (∃ request message data, run.2.events =
          .sent message "" (.replied data) :: .encoded request (.ok message) :: n.events) ∧
        c.step = none ∧ c.again = false := by
  have hcontext : ({ Context.ofTemplate template with queue } : Context).anonymous = true ∨
      n.session.passport.anonymous = true := by
    refine hanon.imp_left fun htemplate => ?_
    rw [htemplate]
    rfl
  have hdiscreet := discreet_attempt parties template hcontext
  have hfirst : Begins parties template queue n 0 { Context.ofTemplate template with queue } n :=
    .first
  intro run
  have hrun :
      run = exec (attempt parties template { Context.ofTemplate template with queue }) n := by
    show exec (start parties template queue) n = _
    rw [hfirst.exec_start.2, exec_negotiate]
    rcases hattempt : exec (attempt parties template { Context.ofTemplate template with queue }) n
      with ⟨e | c, n'⟩
    · rfl
    · obtain ⟨-, -, hagain⟩ := exec_attempt_ok_of_anonymous hcontext rfl hattempt
      exact if_neg (by simp [hagain, Context.ofTemplate])
  rw [hrun]
  exact ⟨hdiscreet, fun c hc => exec_attempt_ok_of_anonymous hcontext rfl (Prod.ext hc rfl)⟩

/-! ### A sample run -/

/-- A reply that refuses the PIN, allows another method and brings a challenge. -/
def eventfulReply : PropertySet :=
  .ofList
    [("RetGlob.RetVal.code", "9942"), ("RetSeg.SegHead.ref", "4"), ("RetSeg.RetVal.code", "3920"),
      ("RetSeg.RetVal.parm", "942"), ("TAN2StepRes6.challenge", "Code 4711")]

/-- A connection of a passport without credentials. -/
def anonymousConnection : Connection where
  session := { passport := { opticalConnection.session.passport with anonymous := true } }

/-- Nothing of this has a consequence without credentials. -/
theorem anonymous_start_eventful :
    ∃ c n', exec (start (steadyParties "" eventfulReply) .start none) anonymousConnection =
        (.ok c, n') ∧
      anonymousConnection.Discreet n' ∧
      (∃ request message data, n'.events =
        [.sent message "" (.replied data), .encoded request (.ok message)]) ∧
      c.step = none ∧ c.again = false := by
  obtain ⟨c, n', hrun⟩ : ∃ c n',
      exec (start (steadyParties "" eventfulReply) .start none) anonymousConnection =
        (.ok c, n') := ⟨_, _, rfl⟩
  obtain ⟨hdiscreet, hok⟩ := anonymous_start (steadyParties "" eventfulReply) .start none
    anonymousConnection (.inr rfl)
  rw [hrun] at hdiscreet hok
  exact ⟨c, n', hrun, hdiscreet, hok c rfl⟩

end Dialog

end TanDialog
