import TanDialog.Proofs.Authentication.Request
import TanDialog.Proofs.Operations

/-!
# The steps of strong authentication

Before an opening is encoded, the request of the current step is written into its fields, unless
the method has TAN requests of a version that is too low (`exec_requestAuthentication`). A reply
that brings a challenge to the first step leads on to the second one
(`perform_receiveChallenge_of_response`); any other reply ends the second step or leaves things as
they are (`perform_receiveChallenge_of_no_response`).
-/

namespace TanDialog

/-- The fields that are encoded with the opening. -/
def Context.fields (c : Context) : PropertySet := (c.opening.map (·.fields)).getD ∅

@[simp]
theorem Context.fields_clearFields (c : Context) : c.clearFields.fields = ∅ := by
  unfold clearFields modifyOpening fields
  cases c.opening <;> rfl

@[simp]
theorem Context.template?_clearFields (c : Context) : c.clearFields.template? = c.template? := by
  unfold clearFields modifyOpening template?
  cases c.opening <;> rfl

@[simp]
theorem Context.authenticates_clearFields (c : Context) :
    c.clearFields.authenticates = c.authenticates := by
  rw [authenticates, template?_clearFields, ← authenticates]

namespace Passport

variable {app : Application}

/-! ### The request of an opening -/

/-- The context with a request in the fields of its opening. -/
def withRequest (c : Context) (version : Nat) (request : TanRequest) : Context :=
  { c.modifyOpening fun o =>
      { o with fields := request.writeFields (BankParameters.requestPath version) o.fields } with
    step := some (c.step.getD .first) }

@[simp]
theorem template?_withRequest (c : Context) (version : Nat) (request : TanRequest) :
    (withRequest c version request).template? = c.template? := by
  unfold withRequest Context.modifyOpening Context.template?
  cases c.opening <;> rfl

theorem fields_withRequest {c : Context} (hc : c.authenticates) (version : Nat)
    (request : TanRequest) :
    (withRequest c version request).fields =
      request.writeFields (BankParameters.requestPath version) c.fields := by
  unfold withRequest Context.modifyOpening Context.fields
  cases ho : c.opening with
  | none => simp [Context.authenticates, Context.template?, ho] at hc
  | some o => simp only [Option.map_some, Option.getD_some]

/-- The request that a session makes for an opening under a method. -/
def requestIn (app : Application) (c : Context) (s : Session) (method : Option Method) :
    TanRequest :=
  openingRequest c (requestVariant method) (c.step.getD .first)
    (s.passport.challenge.orderRef.getD "") (medium app s (requestVersion method) method)

/-- The fields of an opening hold the request of a step under a method, and nothing else. -/
structure CarriesRequest (made : Context) (method : Option Method) (step : Step)
    (orderRef : String) : Prop where
  version : 6 ≤ requestVersion method
  fields : ∃ medium, made.fields.HoldsRequest (openingPath (requestVersion method))
    (openingValues made.queue (requestVariant method) step orderRef medium)

namespace CarriesRequest

variable {made : Context} {method : Option Method} {step : Step} {orderRef : String}

/-- The process code of the request is that of its step. -/
theorem process (h : CarriesRequest made method step orderRef) :
    made.fields.get? (openingPath (requestVersion method) ++ "." ++ "process") =
      some (processCode (requestVariant method) step) := by
  obtain ⟨medium, hfields⟩ := h.fields
  exact hfields.get? ("process", _) List.mem_cons_self

/-- A request of the second step has the order reference, and one of the first step has none. -/
theorem reference (h : CarriesRequest made method step orderRef) :
    made.fields.get? (openingPath (requestVersion method) ++ "." ++ "orderref") =
      some (if step = .second then orderRef else "") := by
  obtain ⟨medium, hfields⟩ := h.fields
  exact hfields.get? ("orderref", if step = .second then orderRef else "")
    (by simp [openingValues])

/-- The order reference of a first step is of no account. -/
theorem of_first (h : CarriesRequest made method .first orderRef) :
    CarriesRequest made method .first "" := ⟨h.version, h.fields⟩

end CarriesRequest

theorem holdsRequest_withRequest {c : Context} (hc : c.authenticates)
    (hfields : c.fields = ∅) (version : Nat) (variant : Variant) (step : Step)
    (orderRef medium : String) :
    (withRequest c version
      (openingRequest c variant step orderRef medium)).fields.HoldsRequest (openingPath version)
        (openingValues c.queue variant step orderRef medium) := by
  rw [fields_withRequest hc, hfields]
  exact holdsRequest_openingRequest c version

/-- The request that a session makes is carried. -/
theorem carriesRequest_withRequest (app : Application) {c : Context} (hc : c.authenticates)
    (hfields : c.fields = ∅) {method : Option Method}
    (hversion : minAuthenticationVersion ≤ requestVersion method) (s : Session) :
    CarriesRequest (withRequest c (requestVersion method) (requestIn app c s method)) method
      (c.step.getD .first) (s.passport.challenge.orderRef.getD "") where
  version := hversion
  fields := ⟨_, holdsRequest_withRequest hc hfields _ _ _ _ _⟩

theorem exec_requestAuthentication_of_not_authenticates {c : Context}
    (hc : c.authenticates = false) (s : Session) :
    exec (requestAuthentication app c) s = (.ok c, s) := by
  simp [requestAuthentication, hc]

/-- The request of the method in use is written, unless it has too low a version. -/
theorem exec_requestAuthentication {c : Context} (hc : c.authenticates) {s t : Session}
    {id : String} (hid : exec (currentMethod app false) s = (.ok id, t)) :
    exec (requestAuthentication app c) s =
      let method := t.passport.catalog.get? id
      let version := requestVersion method
      if version < minAuthenticationVersion then (.ok c, t)
      else
        (.ok (withRequest c version (requestIn app c t method)),
          { t with calls := mediumCalls t.passport version method ++ t.calls }) := by
  have hinfo : exec (currentMethodInfo app) s = (.ok (t.passport.catalog.get? id), t) := by
    rw [currentMethodInfo, exec_bind, hid]
    rfl
  simp only [requestAuthentication, hc, exec_bind, hinfo, Bool.not_true, Bool.false_eq_true,
    if_false]
  split
  case isTrue h =>
    exact (if_pos h).symm
  case isFalse h =>
    simp only [exec_bind, exec_lift, Session.perform_getPassport, perform_tanMedia, exec_pure]
    exact (if_neg h).symm

/-- An opening with strong authentication is prepared under a method that comes into use, and gets
its request unless the method has too low a version. -/
theorem exec_requestAuthentication_ok_of_authenticates {c made : Context} {s s' : Session}
    (hc : c.authenticates) (h : exec (requestAuthentication app c) s = (.ok made, s')) :
    ∃ id t, exec (currentMethod app false) s = (.ok id, t) ∧ s'.passport = t.passport ∧
      let method := t.passport.catalog.get? id
      if requestVersion method < minAuthenticationVersion then made = c
      else
        made = withRequest c (requestVersion method) (requestIn app c t method) ∧
          s' = { t with
            calls := mediumCalls t.passport (requestVersion method) method ++ t.calls } := by
  rcases hid : exec (currentMethod app false) s with ⟨_ | id, t⟩
  · simp [requestAuthentication, hc, currentMethodInfo, exec_bind, hid] at h
  · rw [exec_requestAuthentication hc hid] at h
    dsimp only at h
    split at h
    case isTrue hversion =>
      obtain ⟨hok, rfl⟩ := Prod.mk.inj h
      exact ⟨id, t, rfl, rfl, (if_pos hversion).mpr (Except.ok.inj hok).symm⟩
    case isFalse hversion =>
      obtain ⟨hok, rfl⟩ := Prod.mk.inj h
      exact ⟨id, t, rfl, rfl, (if_neg hversion).mpr ⟨(Except.ok.inj hok).symm, rfl⟩⟩

/-- An opening that is about to be encoded is left as it is, or gets the request of the method in
use. -/
theorem exec_requestAuthentication_ok {c made : Context} {s s' : Session}
    (h : exec (requestAuthentication app c) s = (.ok made, s')) :
    made = c ∨ ∃ id t, exec (currentMethod app false) s = (.ok id, t) ∧ c.authenticates ∧
      minAuthenticationVersion ≤ requestVersion (t.passport.catalog.get? id) ∧
      made = withRequest c (requestVersion (t.passport.catalog.get? id))
        (requestIn app c t (t.passport.catalog.get? id)) ∧ s'.passport = t.passport := by
  cases hc : c.authenticates with
  | false =>
    rw [exec_requestAuthentication_of_not_authenticates hc] at h
    exact .inl (Except.ok.inj (Prod.mk.inj h).1).symm
  | true =>
    obtain ⟨id, t, hcurrent, hpassport, hmade⟩ :=
      exec_requestAuthentication_ok_of_authenticates hc h
    dsimp only at hmade
    split at hmade
    case isTrue => exact .inl hmade
    case isFalse hversion =>
      exact .inr ⟨id, t, hcurrent, rfl, Nat.le_of_not_lt hversion, hmade.1, hpassport⟩

/-- Under a method that is in use, an opening without fields gets its request or none. -/
theorem exec_requestAuthentication_ok_of_current {c made : Context} {s s' : Session} {id : String}
    (hid : s.passport.current = some id) (hfields : c.fields = ∅)
    (h : exec (requestAuthentication app c) s = (.ok made, s')) :
    if c.authenticates ∧
        minAuthenticationVersion ≤ requestVersion (s.passport.catalog.get? id) then
      CarriesRequest made (s.passport.catalog.get? id) (c.step.getD .first)
        (s.passport.challenge.orderRef.getD "")
    else made.fields = ∅ := by
  cases hc : c.authenticates with
  | false =>
    rw [exec_requestAuthentication_of_not_authenticates hc] at h
    obtain rfl := Except.ok.inj (Prod.mk.inj h).1
    exact (if_neg (by simp)).mpr hfields
  | true =>
    rw [exec_requestAuthentication hc (exec_currentMethod_of_some hid)] at h
    dsimp only at h
    split at h
    case isTrue hversion =>
      obtain rfl := Except.ok.inj (Prod.mk.inj h).1
      exact (if_neg fun hsends => Nat.not_lt_of_le hsends.2 hversion).mpr hfields
    case isFalse hversion =>
      obtain rfl := Except.ok.inj (Prod.mk.inj h).1
      have hversion := Nat.le_of_not_lt hversion
      exact (if_pos ⟨rfl, hversion⟩).mpr (carriesRequest_withRequest app hc hfields hversion s)

/-! ### The challenge of a reply -/

theorem template?_advance {c : Context} (hc : c.authenticates) :
    (advance c).template? = some .startWithTan := by
  unfold advance Context.modifyOpening Context.template?
  cases ho : c.opening with
  | none => simp [Context.authenticates, Context.template?, ho] at hc
  | some o => rfl

theorem authenticates_advance {c : Context} (hc : c.authenticates) : (advance c).authenticates := by
  rw [Context.authenticates, template?_advance hc]
  rfl

/-- The TAN response that a reply brings for a first step, unless the bank grants an exemption. -/
def awaitedResponse? (c : Context) (status : ReplyStatus) : Option PropertySet :=
  let response := status.data.find responseQuery
  if c.authenticates ∧ c.step = some .first ∧ status.warningsWith .authenticationExempt = [] ∧
      response.isEmpty = false then some response
  else none

theorem awaitedResponse?_eq_some {c : Context} {status : ReplyStatus} {response : PropertySet} :
    awaitedResponse? c status = some response ↔
      c.authenticates ∧ c.step = some .first ∧ status.warningsWith .authenticationExempt = [] ∧
        (status.data.find responseQuery).isEmpty = false ∧
        response = status.data.find responseQuery := by
  rw [awaitedResponse?]
  split
  case isTrue h => simp [h, eq_comm]
  case isFalse h =>
    refine iff_of_false (by simp) fun hawaits => ?_
    exact h ⟨hawaits.1, hawaits.2.1, hawaits.2.2.1, hawaits.2.2.2.1⟩

/-- Receiving a challenge changes nothing else in the passport, and in the context neither the
credentials nor the queue and the status. -/
theorem perform_receiveChallenge (c : Context) (s : Session) :
    ∃ opening step again challenge, perform (receiveChallenge c) s =
      ({ c with opening, step, again },
        { s with passport := { s.passport with challenge } }) := by
  rw [receiveChallenge]
  split
  · exact ⟨_, _, _, _, rfl⟩
  rw [perform_bind, Session.perform_getPassport]
  dsimp only
  split
  · exact ⟨_, _, _, _, rfl⟩
  split
  case h_2 => exact ⟨_, _, _, _, rfl⟩
  case h_1 =>
    split
    · exact ⟨_, _, _, _, rfl⟩
    split
    · exact ⟨_, _, _, _, rfl⟩
    split <;> exact ⟨_, _, _, _, rfl⟩

/-- A challenge is stored, and leads on to the second step. -/
theorem perform_receiveChallenge_of_response {c : Context} {status : ReplyStatus}
    {response : PropertySet} {s : Session} (hanon : c.anonymous = false)
    (hpass : s.passport.anonymous = false) (hstatus : c.status = some status)
    (h : awaitedResponse? c status = some response) :
    perform (receiveChallenge c) s =
      (advance c, { s with
        passport :=
          { s.passport with challenge := s.passport.challenge.storeResponse response } }) := by
  unfold awaitedResponse? at h
  dsimp only at h
  split at h
  case isFalse => cases h
  case isTrue hawaits =>
    obtain ⟨hauth, hstep, hexempt, hresponse⟩ := hawaits
    obtain rfl := Option.some.inj h
    have hcredentials : (c.anonymous || s.passport.anonymous) = false := by rw [hanon, hpass]; rfl
    rw [receiveChallenge]
    rw [hauth, if_neg (by simp), perform_bind, Session.perform_getPassport]
    dsimp only
    rw [if_neg (by simp [hcredentials]), hstep, hstatus]
    dsimp only
    rw [hexempt, hresponse]
    rfl

/-- Without a challenge the opening stays in its step or gives it up, and it gives up the second
step; the session is as it was. -/
theorem perform_receiveChallenge_of_no_response {c : Context} {status : ReplyStatus} (s : Session)
    (hstatus : c.status = some status) (h : awaitedResponse? c status = none) :
    ∃ step, perform (receiveChallenge c) s = ({ c with step }, s) ∧
      (step = c.step ∨ step = none) ∧ (c.authenticates → step ≠ some .second) := by
  rw [receiveChallenge]
  split
  case isTrue hauth =>
    refine ⟨c.step, rfl, .inl rfl, fun hauth' => ?_⟩
    simp [hauth'] at hauth
  case isFalse hauth =>
    have hauth : c.authenticates := by simpa using hauth
    obtain ⟨anonymous, opening, queue, _, step, again⟩ := c
    obtain rfl : _ = some status := hstatus
    rw [perform_bind, Session.perform_getPassport]
    dsimp only
    by_cases hanon : (anonymous || s.passport.anonymous) = true
    · rw [if_pos hanon]
      exact ⟨none, rfl, .inr rfl, fun _ => by simp⟩
    rw [if_neg hanon]
    rcases step with _ | _ | _
    · exact ⟨none, rfl, .inr rfl, fun _ => by simp⟩
    · -- the first step goes on only without an exemption and with a response
      dsimp only
      by_cases hexempt : status.warningsWith .authenticationExempt = []
      · have hempty : (status.data.find responseQuery).isEmpty := by
          simpa [awaitedResponse?, hauth, hexempt] using h
        rw [hexempt, hempty]
        exact ⟨some .first, rfl, .inl rfl, fun _ => by simp⟩
      · rw [if_pos (by simpa using hexempt)]
        exact ⟨none, rfl, .inr rfl, fun _ => by simp⟩
    · dsimp only
      split <;> exact ⟨none, rfl, .inr rfl, fun _ => by simp⟩

/-- Without credentials the opening has no step any more, and without a status it stays in its
step. -/
theorem perform_receiveChallenge_of_not_ready {c : Context} {s : Session}
    (h : c.anonymous = true ∨ s.passport.anonymous = true ∨ c.status = none) :
    ∃ step, perform (receiveChallenge c) s = ({ c with step }, s) ∧
      (step = c.step ∨
        step = none ∧ (c.anonymous = true ∨ s.passport.anonymous = true ∨ c.status.isSome)) ∧
      (c.authenticates → c.status.isSome → step = none) := by
  rw [receiveChallenge]
  split
  case isTrue hauth =>
    refine ⟨c.step, rfl, .inl rfl, fun hauth' => ?_⟩
    simp [hauth'] at hauth
  case isFalse =>
    obtain ⟨anonymous, opening, queue, status, step, again⟩ := c
    rw [perform_bind, Session.perform_getPassport]
    dsimp only
    by_cases hanon : (anonymous || s.passport.anonymous) = true
    · rw [if_pos hanon]
      rw [Bool.or_eq_true] at hanon
      exact ⟨none, rfl, .inr ⟨rfl, hanon.imp_right .inl⟩, fun _ _ => rfl⟩
    · rw [Bool.or_eq_true, not_or] at hanon
      obtain rfl : status = none := (h.resolve_left hanon.1).resolve_left hanon.2
      rw [if_neg (by simpa using hanon)]
      refine ⟨step, ?_, .inl rfl, fun _ hsome => by cases hsome⟩
      cases step <;> rfl

/-- What comes of receiving a challenge: one that the reply brings for the first step is stored and
leads on to the second step; otherwise the session stays as it is, and the opening stays in its step
or gives it up, as it does with the second step. -/
theorem perform_receiveChallenge_cases (c : Context) (s : Session) :
    (∃ status response, c.status = some status ∧ awaitedResponse? c status = some response ∧
      c.anonymous = false ∧ s.passport.anonymous = false ∧
      perform (receiveChallenge c) s =
        (advance c, { s with
          passport :=
            { s.passport with challenge := s.passport.challenge.storeResponse response } })) ∨
    ∃ step, perform (receiveChallenge c) s = ({ c with step }, s) ∧
      (step = c.step ∨
        step = none ∧ (c.anonymous = true ∨ s.passport.anonymous = true ∨ c.status.isSome)) ∧
      (c.authenticates → c.status.isSome → step ≠ some .second) := by
  by_cases hready : c.anonymous = true ∨ s.passport.anonymous = true ∨ c.status = none
  · obtain ⟨step, hreceive, hstep, hgiven⟩ := perform_receiveChallenge_of_not_ready hready
    exact .inr ⟨step, hreceive, hstep, fun hauth hsome => by simp [hgiven hauth hsome]⟩
  · simp only [not_or, Bool.not_eq_true] at hready
    obtain ⟨hanon, hpass, hstatus⟩ := hready
    obtain ⟨status, hstatus⟩ := Option.ne_none_iff_exists'.mp hstatus
    cases hresponse : awaitedResponse? c status with
    | some response =>
      exact .inl ⟨status, response, hstatus, hresponse, hanon, hpass,
        perform_receiveChallenge_of_response hanon hpass hstatus hresponse⟩
    | none =>
      obtain ⟨step, hreceive, hstep, hne⟩ :=
        perform_receiveChallenge_of_no_response s hstatus hresponse
      have hsome : c.status.isSome := by rw [hstatus]; rfl
      exact .inr ⟨step, hreceive, hstep.imp_right fun hnone => ⟨hnone, .inr (.inr hsome)⟩,
        fun hauth _ => hne hauth⟩

end Passport

end TanDialog
