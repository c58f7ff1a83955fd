import TanDialog.Proofs.Dialog.Costs
import TanDialog.Proofs.Signature

/-!
# From the first step to the second

When the reply to an opening with a request of the first step brings a challenge, the next exchange
carries the request of the second step, and is signed with the TAN that the user gives for this very
challenge (`second_step_follows`). The text and the payload of an earlier challenge do not get in
the way, since signing the first step has used them up.
-/

namespace TanDialog

namespace Dialog

open Passport

variable {parties : Parties} {template : Template} {queue : Option MessageQueue}
  {n₀ : Connection} {k : Nat} {c made : Context} {n n₁ n₂ : Connection} {status : ReplyStatus}
  {id text reference : String} {method : Option Method}

/-- The second step of the authentication is due under a method. -/
structure SecondStepDue (c : Context) (p : Passport) (id : String) : Prop where
  template : c.template? = some .startWithTan
  step : c.step = some .second
  /-- The dialog and the passport have credentials. -/
  dialog : c.anonymous = false
  credentials : p.anonymous = false
  current : p.current = some id

/-! ### The first step -/

/-- An opening that carries fields carries the request of the method in use. -/
theorem carriesRequest_of_fields
    (hmade : exec (fire parties .messageCreated c.clearFields) n = (.ok made, n₁))
    (hfields : made.fields ≠ ∅) (hstep : made.step = some .first)
    (hid : n₁.session.passport.current = some id)
    (hmethod : n₁.session.passport.catalog.get? id = method) :
    made.authenticates ∧ made.anonymous = c.anonymous ∧ CarriesRequest made method .first "" := by
  rw [exec_fire_messageCreated, inRun_eq_ok] at hmade
  obtain ⟨s, hmade, rfl⟩ := hmade
  rcases exec_requestAuthentication_ok hmade with
    rfl | ⟨id', t, hcurrent, hauth, hversion, rfl, hs⟩
  · exact absurd c.fields_clearFields hfields
  · obtain ⟨auto, ht⟩ := exec_currentMethod_ok hcurrent
    obtain rfl : id' = id := by
      have hid' : s.passport.current = some id' := by rw [hs, ht]
      exact Option.some.inj (hid'.symm.trans hid)
    obtain rfl : t.passport.catalog.get? id' = method := by rwa [← hs]
    have hcarried :=
      carriesRequest_withRequest parties.application hauth c.fields_clearFields hversion t
    have hfirst : c.clearFields.step.getD .first = .first := Option.some.inj hstep
    rw [hfirst] at hcarried
    refine ⟨?_, rfl, hcarried.of_first⟩
    rwa [Context.authenticates, template?_withRequest]

/-- Signing an opening under a two-step method uses up the challenge. -/
theorem challenge_of_exec_exchange_ok {request : Request}
    (hreply : exec (exchange parties request false) n₁ = (.ok status, n₂))
    (hpass : n₁.session.passport.anonymous = false) (hid : n₁.session.passport.current = some id)
    (htwo : id ≠ Method.oneStepId) :
    ∃ pin, n₂.session.passport =
      { n₁.session.passport with pin, challenge := n₁.session.passport.challenge.used } := by
  obtain ⟨message, sig, s, data, -, hsigned, -, -, rfl⟩ := exec_exchange_ok.mp hreply
  simp only [signed, hpass, Bool.or_self, Bool.false_eq_true, if_false] at hsigned
  exact ⟨_, exec_sign_ok hid htwo hsigned⟩

/-- After a challenge for the first step the second step is due, and nothing is left of earlier
challenges. -/
theorem begins_second_step (h : Begins parties template queue n₀ k c n)
    (hmade : exec (fire parties .messageCreated c.clearFields) n = (.ok made, n₁))
    (hreply : exec (exchange parties (openingRequest template made) made.anonymous) n₁ =
      (.ok status, n₂))
    (hanon : made.anonymous = false) (hpass : n₁.session.passport.anonymous = false)
    (hauth : made.authenticates) (hstep : made.step = some .first)
    (hid : n₁.session.passport.current = some id) (htwo : id ≠ Method.oneStepId)
    (hk : k < n₀.session.passport.config.maxRestarts)
    (hexempt : status.warningsWith .authenticationExempt = [])
    (hallowed : status.warningsWith .methodsAllowed = [])
    (htext : (status.data.find responseQuery).getNonEmpty? "challenge" = some text)
    (hreference : (status.data.find responseQuery).getNonEmpty? "orderref" = some reference) :
    ∃ c' n', Begins parties template queue n₀ (k + 1) c' n' ∧
      SecondStepDue c' n'.session.passport id ∧
      n'.events = n₂.events ∧ n'.session.passport.catalog = n₁.session.passport.catalog ∧
      n'.session.passport.challenge =
        { text := some text
          payload := (status.data.find responseQuery).getNonEmpty? "challenge_hhd_uc"
          orderRef := some reference } := by
  -- signing the first step has used up whatever was stored before
  obtain ⟨pin, hn₂⟩ := challenge_of_exec_exchange_ok (hanon ▸ hreply) hpass hid htwo
  have hresponse : awaitedResponse? { made with status := some status } status =
      some (status.data.find responseQuery) :=
    if_pos ⟨hauth, hstep, hexempt, PropertySet.isEmpty_of_getNonEmpty? htext⟩
  obtain ⟨s', pin', hreact, hs'⟩ := exec_react_of_response parties.application
    (c := { made with status := some status }) (s := n₂.session) hanon (by rw [hn₂]; exact hpass)
    rfl hallowed hresponse
  have hsent := exec_fire_messageSent parties { made with status := some status } n₂
  rw [hreact] at hsent
  have hattempt := exec_attempt_ok.mpr ⟨made, n₁, status, n₂, hmade, hreply, hsent⟩
  refine ⟨_, _, h.again hk hattempt rfl, ⟨?_, rfl, hanon, ?_, ?_⟩, rfl, ?_, ?_⟩
  · exact template?_advance hauth
  · rw [hs', hn₂]
    exact hpass
  · rw [hs', hn₂]
    exact hid
  · rw [hs', hn₂]
  · rw [hs', hn₂]
    exact (Challenge.storeResponse_used _ _).trans
      (by rw [htext, Challenge.update_of_getNonEmpty? hreference])

/-! ### The second step -/

/-- Where the second step is due, the next opening carries its request. -/
theorem SecondStepDue.exec_fire (h : SecondStepDue c n.session.passport id)
    (hmethod : n.session.passport.catalog.get? id = method)
    (hversion : minAuthenticationVersion ≤ requestVersion method) :
    ∃ made n',
      exec (fire parties .messageCreated c.clearFields) n = (.ok made, n') ∧
      n'.session.passport = n.session.passport ∧ made.anonymous = false ∧
      openingRequest template made = .opening .startWithTan made.fields ∧
      CarriesRequest made method .second (n.session.passport.challenge.orderRef.getD "") := by
  have htemplate : c.clearFields.template? = some .startWithTan := by
    rw [Context.template?_clearFields, h.template]
  have hauth : c.clearFields.authenticates := by
    rw [Context.authenticates, htemplate]
    rfl
  have hsecond : c.clearFields.step.getD .first = .second := congrArg (·.getD .first) h.step
  have hcarried := carriesRequest_withRequest parties.application hauth c.fields_clearFields
    hversion n.session
  rw [hsecond] at hcarried
  have hmade := exec_fire_messageCreated parties c.clearFields n
  rw [exec_requestAuthentication hauth (exec_currentMethod_of_some h.current), hmethod] at hmade
  dsimp only at hmade
  rw [if_neg (Nat.not_lt_of_le hversion)] at hmade
  refine ⟨_, _, hmade, rfl, h.dialog, ?_, hcarried⟩
  rw [openingRequest, template?_withRequest, htemplate]
  rfl

/-- An opening of the second step is signed with the TAN for the challenge, about which the user is
asked last. -/
theorem exec_exchange_second_step {request : Request} {message : List UInt8}
    {payload : Option String} {tan : String}
    (hpass : n.session.passport.anonymous = false) (hid : n.session.passport.current = some id)
    (htwo : id ≠ Method.oneStepId) (hmethod : n.session.passport.catalog.get? id = method)
    (htext : n.session.passport.challenge.text = some text)
    (hpayload : n.session.passport.challenge.payload = payload)
    (hmessage : parties.bank.encode n.events request = .ok message)
    (hpin : HasPin parties.application n.session)
    (htan : tanFor parties.application n.session method text payload = tan) (hne : tan ≠ "") :
    ∃ delivery n',
      (exec (exchange parties request false) n).2 = n' ∧
      n'.events =
        .sent message (pinFor parties.application n.session ++ "|" ++ tan) delivery ::
          .encoded request (.ok message) :: n.events ∧
      n'.session.calls =
        tanCall method text payload :: (afterPin parties.application n.session).calls ∧
      n'.session.passport.challenge.text = none ∧ n'.session.passport.challenge.payload = none := by
  subst hmethod hpayload
  obtain ⟨s, hs, hcalls⟩ := exec_sign_of_challenge message hid htwo htext hpin htan hne
  have hsigned : signed parties false message n.session =
      (.ok (pinFor parties.application n.session ++ "|" ++ tan), s) := by
    simpa [signed, hpass] using hs
  obtain ⟨delivery, hevents, hsession⟩ := exec_exchange_of_signed hmessage hsigned
  have hpassport := exec_sign_ok hid htwo hs
  refine ⟨delivery, _, rfl, hevents, hsession ▸ hcalls, ?_, ?_⟩
  · rw [hsession, hpassport]
    rfl
  · rw [hsession, hpassport]
    rfl

/-- **The second step follows the first one.** Let a dialog with credentials be opened under a
two-step method, and let one of its exchanges carry the request of the first step. If the reply
neither exempts from the authentication nor speaks of the allowed methods, and brings a challenge
with an order reference, then the run goes on. Its next exchange carries the request of the second
step for the same method with this reference. The user is asked, by the name of the method and its
hint, for the answer to this challenge, and unless PIN or TAN are left empty, the request is signed
with both, and nothing is left of the challenge. -/
theorem second_step_follows (h : Begins parties template queue n₀ k c n)
    (hmade : exec (fire parties .messageCreated c.clearFields) n = (.ok made, n₁))
    (hreply : exec (exchange parties (openingRequest template made) made.anonymous) n₁ =
      (.ok status, n₂))
    (hdialog : template ≠ .startAnonymous) (hpass : n₀.session.passport.anonymous = false)
    (hfields : made.fields ≠ ∅) (hstep : made.step = some .first)
    (hid : n₁.session.passport.current = some id) (htwo : id ≠ Method.oneStepId)
    (hmethod : n₁.session.passport.catalog.get? id = method)
    (hk : k < n₀.session.passport.config.maxRestarts)
    (hexempt : status.warningsWith .authenticationExempt = [])
    (hallowed : status.warningsWith .methodsAllowed = [])
    (htext : (status.data.find "TAN2StepRes*.").getNonEmpty? "challenge" = some text)
    (hreference : (status.data.find "TAN2StepRes*.").getNonEmpty? "orderref" = some reference) :
    let maxRestarts := n₀.session.passport.config.maxRestarts
    let run := exec (start parties template queue) n₀
    let path := "TAN2Step" ++ toString (requestVersion method)
    CarriesRequest made method .first "" ∧
    ∃ c' n₃ made' n₄,
      -- the run goes on
      Begins parties template queue n₀ (k + 1) c' n₃ ∧
      run = exec (negotiate parties template maxRestarts (maxRestarts - (k + 1)) c') n₃ ∧
      exec (fire parties .messageCreated c'.clearFields) n₃ = (.ok made', n₄) ∧
      n₄.events = n₂.events ∧
      -- the next request
      openingRequest template made' = .opening .startWithTan made'.fields ∧
      CarriesRequest made' method .second reference ∧
      made'.fields.get? (path ++ "." ++ "process") =
        some (processCode (requestVariant method) .second) ∧
      made'.fields.get? (path ++ "." ++ "orderref") = some reference ∧
      let request := Request.opening .startWithTan made'.fields
      let encoded := parties.bank.encode n₄.events request
      (∃ later, run.2.events = later ++ .encoded request encoded :: n₄.events) ∧
      -- its signature
      let answer := parties.application.answer
      let s := n₄.session
      let pinCalls := if s.passport.pin = none then [Call.requestPin] else []
      let pin := s.passport.pin.getD (answer (.requestPin :: s.calls))
      let name := (method.map Method.name).getD ""
      let hint := (method.map Method.inputInfo).getD ""
      let payload := (status.data.find "TAN2StepRes*.").getNonEmpty? "challenge_hhd_uc"
      let prompt := Call.requestTan (name ++ "\n" ++ hint ++ "\n\n" ++ text)
        (Flicker.decode payload (some text))
      let tan := answer (prompt :: (pinCalls ++ s.calls))
      ∀ message, encoded = .ok message → (s.passport.pin = none → pin ≠ "") → tan ≠ "" →
        ∃ delivery n₅ later,
          (exec (exchange parties request made'.anonymous) n₄).2 = n₅ ∧
          n₅.events =
            .sent message (pin ++ "|" ++ tan) delivery ::
              .encoded request (.ok message) :: n₄.events ∧
          run.2.events = later ++ n₅.events ∧
          n₅.session.calls = prompt :: (pinCalls ++ s.calls) ∧
          n₅.session.passport.challenge.text = none ∧
          n₅.session.passport.challenge.payload = none := by
  intro maxRestarts run path
  obtain ⟨hauth, hanon, hfirst⟩ := carriesRequest_of_fields hmade hfields hstep hid hmethod
  have hanon : made.anonymous = false := by
    rw [hanon, h.anonymous_eq]
    simpa using hdialog
  have hpass₁ : n₁.session.passport.anonymous = false := by
    have := congrArg Settings.anonymous ((settings_of_exec_fire_ok hmade).trans h.settings_eq)
    exact this.trans hpass
  obtain ⟨c', n₃, hbegins, hdue, hn₃, hcatalog, hchallenge⟩ :=
    begins_second_step h hmade hreply hanon hpass₁ hauth hstep hid htwo hk hexempt hallowed htext
      hreference
  have hmethod₃ : n₃.session.passport.catalog.get? id = method := by rw [hcatalog, hmethod]
  obtain ⟨made', n₄, hmade', hn₄, hanon', hrequest, hsecond⟩ :=
    hdue.exec_fire hmethod₃ hfirst.version
  rw [hchallenge] at hsecond
  obtain ⟨later, hlater⟩ := hbegins.exists_events_start hmade'
  rw [hrequest] at hlater
  refine ⟨hfirst, c', n₃, made', n₄, hbegins, hbegins.exec_start.2, hmade',
    (events_of_exec_fire_ok hmade').trans hn₃, hrequest, hsecond, hsecond.process,
    hsecond.reference, ?_, ?_⟩
  · obtain ⟨sent, hsent⟩ :=
      exists_events_exchange (.opening .startWithTan made'.fields) made'.anonymous n₄
    exact ⟨later ++ sent, by rw [hlater, hsent, List.append_assoc]⟩
  · intro answer s pinCalls pin name hint payload prompt tan message hmessage hpin hne
    -- making the opening has left the passport alone, so that the challenge is still there
    rw [← hn₄] at hdue hmethod₃ hchallenge
    have hcalls : (afterPin parties.application n₄.session).calls = pinCalls ++ s.calls :=
      calls_afterPin parties.application n₄.session
    have htan : tanFor parties.application n₄.session method text payload = tan := by
      rw [tanFor, hcalls]
      rfl
    obtain ⟨delivery, n₅, hn₅, hevents, hasked, htext', hpayload'⟩ :=
      exec_exchange_second_step hdue.credentials hdue.current htwo hmethod₃
        (congrArg Challenge.text hchallenge) (congrArg Challenge.payload hchallenge) hmessage hpin
        htan hne
    rw [hanon', hn₅] at hlater
    rw [hcalls] at hasked
    rw [hanon']
    exact ⟨delivery, n₅, later, hn₅, hevents, hlater, hasked, htext', hpayload'⟩

/-! ### A sample run -/

/-- A reply with a challenge. -/
def challengeReply : PropertySet :=
  .ofList [("TAN2StepRes6.challenge", "Code 4711"), ("TAN2StepRes6.orderref", "R1")]

/-- A bank that always sends a challenge, and a user who always answers `111111`. -/
def challengingParties : Parties := steadyParties "111111" challengeReply

/-- A method of variant two. -/
def opticalMethod : Method := ⟨"912", 6, .ofList [("name", "chipTAN"), ("process", "2")]⟩

/-- A connection of a passport that knows its PIN and uses this method. -/
def opticalConnection : Connection where
  session :=
    { passport :=
        { config := {}, verifyTanMode := false, pin := some "12345", current := some "912"
          catalog := .ofList [("912", opticalMethod)] } }

/-- The first opening of a dialog on this connection. -/
def firstOpening : Context :=
  withRequest (Context.ofTemplate .start) 6
    (Passport.openingRequest (Context.ofTemplate .start) .two .first "" "")

theorem second_step_follows_sample :
    ∃ c' n₃ made' n₄ delivery later, ∃ n₅ : Connection,
      Begins challengingParties .start none opticalConnection 1 c' n₃ ∧
      exec (fire challengingParties .messageCreated c'.clearFields) n₃ = (.ok made', n₄) ∧
      made'.fields.get? "TAN2Step6.process" = some "2" ∧
      made'.fields.get? "TAN2Step6.orderref" = some "R1" ∧
      (exec (start challengingParties .start none) opticalConnection).2.events =
        later ++ n₅.events ∧
      n₅.events =
        .sent [] (n₄.session.passport.pin.getD "111111" ++ "|" ++ "111111") delivery ::
          .encoded (.opening .startWithTan made'.fields) (.ok []) :: n₄.events ∧
      n₅.session.calls.head? = some (.requestTan "chipTAN\n\n\nCode 4711" none) ∧
      n₅.session.passport.challenge.text = none := by
  have hbegins : Begins challengingParties .start none opticalConnection 0
      (Context.ofTemplate .start) opticalConnection := .first
  have hmade : exec (fire challengingParties .messageCreated
      (Context.ofTemplate .start).clearFields) opticalConnection =
      (.ok firstOpening, opticalConnection) := rfl
  have hreply : exec (exchange challengingParties (openingRequest .start firstOpening) false)
      opticalConnection =
      (.ok (.ofData challengeReply),
        (exec (exchange challengingParties (openingRequest .start firstOpening) false)
          opticalConnection).2) := rfl
  have htext : (challengeReply.find "TAN2StepRes*.").getNonEmpty? "challenge" =
      some "Code 4711" := rfl
  have hreference : (challengeReply.find "TAN2StepRes*.").getNonEmpty? "orderref" =
      some "R1" := rfl
  have hcurrent : opticalConnection.session.passport.current = some "912" := rfl
  obtain ⟨-, c', n₃, made', n₄, hbegins', -, hmade', -, -, -, hprocess, horderRef, -, hsigned⟩ :=
    second_step_follows hbegins hmade hreply (by decide) rfl (by decide) rfl hcurrent (by decide)
      rfl (by decide) rfl rfl htext hreference
  have hne : "111111" ≠ "" := by decide
  obtain ⟨delivery, n₅, later, -, hevents, hlater, hcalls, htext', -⟩ :=
    hsigned [] rfl (fun hnone => by rw [hnone]; exact hne) hne
  refine ⟨c', n₃, made', n₄, delivery, later, n₅, hbegins', hmade', hprocess, horderRef, hlater,
    hevents, ?_, htext'⟩
  rw [hcalls]
  rfl

end Dialog

end TanDialog
