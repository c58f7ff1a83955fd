import TanDialog.Proofs.Dialog.SecondStep

/-!
# A change of the method while a dialog is opened

When the bank names the methods that it allows, the reaction may change the method in use, and the
opening is repeated. Whether the authentication begins anew under the new method depends on what
else the reply holds (`request_after_method_change`): without a challenge the next opening carries a
request of the first step, but a challenge for the old method leads on to the second step under the
new one.
-/

namespace TanDialog

namespace Dialog

open Passport

variable {parties : Parties} {template : Template} {queue : Option MessageQueue}
  {n₀ : Connection} {k : Nat} {c made reacted made' : Context} {n n₁ n₂ n₃ n₄ : Connection}
  {status : ReplyStatus}

theorem authenticates_of_awaitedResponse? {response : PropertySet}
    (h : awaitedResponse? c status = some response) : c.authenticates :=
  (awaitedResponse?_eq_some.mp h).1

/-- **The request after a change of the method.** Let the reaction to a reply change the method in
use, and let the run go on. If the new method has TAN requests for openings, the next one carries
the request of the first step, unless the reply has brought a challenge to a first step. Then it
carries the request of the second step under the new method, with the order reference of that
challenge. -/
theorem request_after_method_change (h : Begins parties template queue n₀ k c n)
    (hmade : exec (fire parties .messageCreated c.clearFields) n = (.ok made, n₁))
    (hreply : exec (exchange parties (openingRequest template made) made.anonymous) n₁ =
      (.ok status, n₂))
    (hreact : exec (fire parties .messageSent { made with status := some status }) n₂ =
      (.ok reacted, n₃))
    (hchanged : n₃.session.passport.current ≠ n₂.session.passport.current)
    (hk : k < n₀.session.passport.config.maxRestarts)
    (hnext : exec (fire parties .messageCreated
      ({ reacted with again := false } : Context).clearFields) n₃ = (.ok made', n₄)) :
    ∃ id, n₃.session.passport.current = some id ∧
      Begins parties template queue n₀ (k + 1) { reacted with again := false } n₃ ∧
      if made.authenticates ∧
          minAuthenticationVersion ≤ requestVersion (n₃.session.passport.catalog.get? id) then
        match awaitedResponse? made status with
        | none => CarriesRequest made' (n₃.session.passport.catalog.get? id) .first ""
        | some response =>
          CarriesRequest made' (n₃.session.passport.catalog.get? id) .second
            ((n₂.session.passport.challenge.storeResponse response).orderRef.getD "")
      else made'.fields = ∅ := by
  have hattempt := exec_attempt_ok.mpr ⟨made, n₁, status, n₂, hmade, hreply, hreact⟩
  rw [exec_fire_messageSent, inRun_eq_ok] at hreact
  obtain ⟨s₃, hreact, rfl⟩ := hreact
  rw [exec_fire_messageCreated, inRun_eq_ok] at hnext
  obtain ⟨s₄, hnext, rfl⟩ := hnext
  obtain ⟨⟨id, hid⟩, hcourse⟩ := exec_react_ok_of_changed rfl hreact hchanged
  have hrequest := exec_requestAuthentication_ok_of_current hid (Context.fields_clearFields _) hnext
  rw [Context.authenticates_clearFields] at hrequest
  have hawaited : awaitedResponse? { made with status := some status } status =
      awaitedResponse? made status := rfl
  rw [hawaited] at hcourse
  cases hresponse : awaitedResponse? made status with
  | none =>
    rw [hresponse] at hcourse
    obtain ⟨step, rfl, hne⟩ := hcourse
    refine ⟨id, hid, h.again hk hattempt rfl, ?_⟩
    by_cases hsends : made.authenticates ∧
        minAuthenticationVersion ≤ requestVersion (s₃.passport.catalog.get? id)
    · -- the step left behind is none or the first one, and the request makes it the first
      have hcarries : CarriesRequest made' _ (step.getD .first) _ := (if_pos hsends).mp hrequest
      have hfirst : step.getD .first = .first := by
        rcases step with _ | _ | _
        · rfl
        · rfl
        · exact absurd rfl (hne hsends.1)
      rw [hfirst] at hcarries
      exact (if_pos hsends).mpr hcarries.of_first
    · exact (if_neg hsends).mpr ((if_neg hsends).mp hrequest)
  | some response =>
    rw [hresponse] at hcourse
    obtain ⟨rfl, hchallenge⟩ := hcourse
    have hauth := authenticates_of_awaitedResponse? hresponse
    -- the step moves on although the challenge was meant for the old method
    have hnext : (advance { made with status := some status }).authenticates :=
      authenticates_advance hauth
    refine ⟨id, hid, h.again hk hattempt rfl, ?_⟩
    by_cases hversion : minAuthenticationVersion ≤ requestVersion (s₃.passport.catalog.get? id)
    · have hcarries : CarriesRequest made' _ .second _ := (if_pos ⟨hnext, hversion⟩).mp hrequest
      rw [hchallenge] at hcarries
      exact (if_pos ⟨hauth, hversion⟩).mpr hcarries
    · exact (if_neg fun hsends => hversion hsends.2).mpr
        ((if_neg fun hsends => hversion hsends.2).mp hrequest)

/-! ### A sample run -/

/-- A reply that allows only the method `912` and brings a challenge nevertheless. -/
def allowingReply : PropertySet :=
  .ofList [("RetGlob.RetVal.code", "3920"), ("RetGlob.RetVal.parm", "912"),
    ("TAN2StepRes6.challenge", "Code 4711"), ("TAN2StepRes6.orderref", "R1")]

def allowingParties : Parties := steadyParties "111111" allowingReply

/-- A connection that uses another method than the one that the bank will allow. -/
def outdatedConnection : Connection where
  session :=
    { passport := { opticalConnection.session.passport with current := some "921" } }

/-- That connection after the first exchange of a dialog. -/
def answeredConnection : Connection :=
  { outdatedConnection with
    events :=
      [.sent [] "12345|" (.replied allowingReply),
        .encoded (openingRequest .start firstOpening) (.ok [])] }

/-- The connection after the reaction to the reply. -/
def allowedConnection : Connection :=
  { answeredConnection with
    session :=
      { passport :=
          { opticalConnection.session.passport with
            enrolled := .ofNames ["912"]
            autoSelected := true
            challenge := { text := some "Code 4711", orderRef := some "R1" } } } }

/-- The challenge for the old method is answered under the new one. -/
theorem request_after_method_change_sample :
    ∃ c' made' n₄,
      Begins allowingParties .start none outdatedConnection 1 c' allowedConnection ∧
      exec (fire allowingParties .messageCreated c'.clearFields) allowedConnection =
        (.ok made', n₄) ∧
      CarriesRequest made' (some opticalMethod) .second "R1" := by
  have hbegins : Begins allowingParties .start none outdatedConnection 0
      (Context.ofTemplate .start) outdatedConnection := .first
  have hmade : exec (fire allowingParties .messageCreated
      (Context.ofTemplate .start).clearFields) outdatedConnection =
      (.ok firstOpening, outdatedConnection) := rfl
  have hreply : exec (exchange allowingParties (openingRequest .start firstOpening) false)
      outdatedConnection = (.ok (.ofData allowingReply), answeredConnection) := rfl
  have hreact : exec (fire allowingParties .messageSent
      { firstOpening with status := some (.ofData allowingReply) }) answeredConnection =
      (.ok (advance { firstOpening with status := some (.ofData allowingReply) }),
        allowedConnection) := rfl
  have hawaited : awaitedResponse? firstOpening (.ofData allowingReply) =
      some (allowingReply.find responseQuery) := rfl
  obtain ⟨id, hid, hbegins', hcarries⟩ :=
    request_after_method_change hbegins hmade hreply hreact (by decide) (by decide) rfl
  obtain rfl : "912" = id := Option.some.inj hid
  rw [hawaited, if_pos (by decide)] at hcarries
  exact ⟨_, _, _, hbegins', rfl, hcarries⟩

end Dialog

end TanDialog
