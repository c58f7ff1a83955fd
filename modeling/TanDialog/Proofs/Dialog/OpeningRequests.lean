import TanDialog.Proofs.Authentication.Steps
import TanDialog.Proofs.Dialog.Series

/-!
# The requests of an opening

Every exchange of a run that opens a dialog begins with fields that have been cleared, so that its
request depends on the passport and on the step alone (`opening_requests`). The method in use, the
version and the step may all be others than in the exchange before, and nothing is left of that one.

The second step comes about in one way only: the exchange right before has brought a TAN response,
whose reference is stored by then (`Begins.followsResponse`).
-/

namespace TanDialog

/-- The messages with which strong authentication takes place. -/
theorem Template.authenticates_iff {t : Template} :
    t.authenticates = true ↔ t = .start ∨ t = .startWithTan ∨ t = .synchronise := by
  cases t <;> decide

namespace Dialog

open Passport

/-! ### What is said of a request -/

/-- The exchange with an index comes right after one whose reply has brought a TAN response. If the
response has an order reference, this is the reference that is stored. -/
def FollowsResponse (parties : Parties) (rounds : List Round) (k : Nat)
    (stored : Option String) : Prop :=
  ∃ j y status, k = j + 1 ∧ rounds[j]? = some y ∧ (y.result parties).1 = .ok status ∧
    (status.data.find "TAN2StepRes*.").isEmpty = false ∧
    ∀ ref, (status.data.find "TAN2StepRes*.").getNonEmpty? "orderref" = some ref →
      stored = some ref

/-- The fields hold the TAN request for a method, and nothing else. The medium is asked for right
before the exchange, in a session with the same passport. -/
def CarriesAuthentication (parties : Parties) (queue : Option MessageQueue) (rounds : List Round)
    (k : Nat) (x : Round) (method : Option Method) (fields : PropertySet) : Prop :=
  ∃ step s,
    fields.HoldsRequest (openingPath (requestVersion method))
      (openingValues queue (requestVariant method) step
        (x.before.session.passport.challenge.orderRef.getD "")
        (medium parties.application s (requestVersion method) method)) ∧
    x.before.session =
      { s with calls := mediumCalls s.passport (requestVersion method) method ++ s.calls } ∧
    (step = .second →
      FollowsResponse parties rounds k x.before.session.passport.challenge.orderRef)

/-- The request of an exchange opens the dialog by a template. It has no fields if no strong
authentication takes place with this template, or if the method in use has too low a version, and
otherwise those of the TAN request for this method. -/
def RequestsOpening (parties : Parties) (queue : Option MessageQueue) (rounds : List Round)
    (k : Nat) (x : Round) : Prop :=
  ∃ t fields, x.request = .opening t fields ∧
    if t = .start ∨ t = .startWithTan ∨ t = .synchronise then
      ∃ id, x.before.session.passport.current = some id ∧
        let method := x.before.session.passport.catalog.get? id
        if requestVersion method < 6 then fields = ∅
        else CarriesAuthentication parties queue rounds k x method fields
    else fields = ∅

variable {parties : Parties} {template : Template} {queue : Option MessageQueue}
  {c c' made : Context} {n n' n₀ n₁ : Connection} {k : Nat} {x : Round}

/-! ### The exchanges of a run, by their index -/

theorem head?_openingRounds (parties : Parties) (template : Template) (left : Nat) (c : Context)
    (n : Connection) :
    (openingRounds parties template left c n).head? = openingRound? parties template c n := by
  cases left with
  | zero =>
    rw [openingRounds]
    cases openingRound? parties template c n <;> rfl
  | succ left =>
    rw [openingRounds, openingRound?, attempt, exec_bind]
    rcases exec (fire parties .messageCreated c.clearFields) n with ⟨e | made, n₁⟩ <;> rfl

namespace Begins

/-- The exchange that is due in a context. -/
theorem openingRound?_eq (h : Begins parties template queue n₀ k c n)
    (hmade : exec (fire parties .messageCreated c.clearFields) n = (.ok made, n₁)) :
    openingRound? parties template c n =
      some
        { request := openingRequest template made, anonymous := made.anonymous, before := n₁ } := by
  rw [openingRound?, hmade, anonymous_of_exec_fire_messageCreated hmade, h.anonymous_eq]

/-- From an exchange on, the exchanges of a run are those that are due from there. -/
theorem drop_commandRounds (h : Begins parties template queue n₀ k c n) :
    (commandRounds parties n₀ (.start template queue)).drop k =
      openingRounds parties template (n₀.session.passport.config.maxRestarts - k) c n := by
  induction h with
  | first => rfl
  | @again k c c' n n' h hk hattempt hagain ih =>
    obtain ⟨left, hleft⟩ : ∃ left, n₀.session.passport.config.maxRestarts - k = left + 1 :=
      Nat.exists_eq_succ_of_ne_zero (Nat.sub_ne_zero_of_lt hk)
    have hleft' : n₀.session.passport.config.maxRestarts - (k + 1) = left := by omega
    obtain ⟨made, n₁, _, _, hmade, -, -⟩ := exec_attempt_ok.mp hattempt
    rw [← List.drop_drop, ih, hleft, hleft', openingRounds, h.openingRound?_eq hmade, hattempt]
    simp only [hagain, if_true]
    rfl

theorem getElem?_commandRounds (h : Begins parties template queue n₀ k c n) :
    (commandRounds parties n₀ (.start template queue))[k]? =
      openingRound? parties template c n := by
  rw [← List.head?_drop, h.drop_commandRounds, head?_openingRounds]

end Begins

/-- Every exchange of a run begins in a context and a connection. -/
theorem exists_begins (hx : (commandRounds parties n₀ (.start template queue))[k]? = some x) :
    ∃ c n, Begins parties template queue n₀ k c n ∧
      openingRound? parties template c n = some x := by
  induction k generalizing x with
  | zero =>
    have hfirst : Begins parties template queue n₀ 0
      { Context.ofTemplate template with queue } n₀ := .first
    exact ⟨_, _, hfirst, hfirst.getElem?_commandRounds.symm.trans hx⟩
  | succ k ih =>
    have hlt := (List.getElem?_eq_some_iff.mp hx).1
    obtain ⟨c, n, h, hround⟩ := ih (List.getElem?_eq_getElem (Nat.lt_of_succ_lt hlt))
    have hnext : (openingRounds parties template (n₀.session.passport.config.maxRestarts - k) c
        n)[1]? = some x := by
      rw [← h.drop_commandRounds, List.getElem?_drop, hx]
    -- there is a next exchange only if a repetition is left and the flag has been raised
    cases hleft : n₀.session.passport.config.maxRestarts - k with
    | zero => simp [hleft, openingRounds, hround] at hnext
    | succ left =>
      have hk : k < n₀.session.passport.config.maxRestarts := by omega
      rcases hattempt : exec (attempt parties template c) n with ⟨e | c', n'⟩
      · simp [hleft, openingRounds, hround, hattempt] at hnext
      · cases hagain : c'.again with
        | false => simp [hleft, openingRounds, hround, hattempt, hagain] at hnext
        | true =>
          have h' := h.again hk hattempt hagain
          exact ⟨_, _, h', h'.getElem?_commandRounds.symm.trans hx⟩

/-! ### Contexts in a run -/

theorem stage_of_exec_fire_messageCreated (hstage : Stage template c n.session.passport)
    (h : exec (fire parties .messageCreated c.clearFields) n = (.ok made, n₁)) :
    Stage template made n₁.session.passport := by
  obtain ⟨s, hs, rfl⟩ := exec_fire_ok.mp h
  exact (hstage.keep c.template?_clearFields (.inl rfl) (.inr c.fields_clearFields) rfl
    rfl).messageCreated hs

theorem stage_of_exec_attempt_ok (hstage : Stage template c n.session.passport)
    (h : exec (attempt parties template c) n = (.ok c', n')) :
    Stage template c' n'.session.passport := by
  obtain ⟨made, n₁, status, n₂, hmade, hreply, hreact⟩ := exec_attempt_ok.mp h
  have hpass := congrArg Settings.anonymous (settings_of_exec_exchange_ok hreply)
  have hreplied : Stage template { made with status := some status } n₂.session.passport :=
    (stage_of_exec_fire_messageCreated hstage hmade).keep rfl (.inl rfl) (.inl rfl) rfl hpass
  obtain ⟨s, hs, rfl⟩ := exec_fire_ok.mp hreact
  exact hreplied.messageSent hs

theorem queue_of_exec_attempt_ok (h : exec (attempt parties template c) n = (.ok c', n')) :
    c'.queue = c.queue := by
  obtain ⟨made, n₁, status, n₂, hmade, -, hreact⟩ := exec_attempt_ok.mp h
  obtain ⟨s, hs, -⟩ := exec_fire_ok.mp hmade
  have hqueue : made.queue = c.queue := by
    obtain ⟨-, rfl | ⟨-, -, _, _, rfl⟩⟩ := messageCreated_cases hs <;> rfl
  rw [exec_fire_messageSent, inRun_eq_ok] at hreact
  obtain ⟨_, hreact, -⟩ := hreact
  rcases exec_react_ok_cases hreact with
    ⟨_, _, -, -, -, -, rfl, -⟩ | ⟨_, _, rfl, -⟩
  · exact hqueue
  · exact hqueue

namespace Begins

/-- The context of every exchange has come to a stage of the template. -/
theorem stage (h : Begins parties template queue n₀ k c n) :
    Stage template c n.session.passport := by
  induction h with
  | first =>
    exact (Stage.ofTemplate template n₀.session.passport).keep rfl (.inl rfl) (.inl rfl) rfl rfl
  | again _ _ hattempt _ ih =>
    exact (stage_of_exec_attempt_ok ih hattempt).keep rfl (.inl rfl) (.inl rfl) rfl rfl

theorem queue_eq (h : Begins parties template queue n₀ k c n) : c.queue = queue := by
  induction h with
  | first => rfl
  | again _ _ hattempt _ ih => exact (queue_of_exec_attempt_ok hattempt).trans ih

/-- An exchange in the second step follows one that has brought a TAN response. -/
theorem followsResponse (h : Begins parties template queue n₀ k c n)
    (hsecond : c.step = some .second) :
    FollowsResponse parties (commandRounds parties n₀ (.start template queue)) k
      n.session.passport.challenge.orderRef := by
  cases h with
  | first => cases hsecond
  | @again k c c' n n' h hk hattempt hagain =>
    obtain ⟨made, n₁, status, n₂, hmade, hreply, hreact⟩ := exec_attempt_ok.mp hattempt
    have hround := h.getElem?_commandRounds.trans (h.openingRound?_eq hmade)
    refine ⟨k, _, status, rfl, hround, congrArg Prod.fst hreply, ?_⟩
    rw [exec_fire_messageSent, inRun_eq_ok] at hreact
    obtain ⟨s, hreact, rfl⟩ := hreact
    rcases exec_react_ok_cases hreact with
      ⟨status', response, hstatus, hresponse, -, -, -, hchallenge⟩ |
      ⟨step, again, rfl, -, hstep, hends⟩
    · obtain rfl : status = status' := Option.some.inj hstatus
      obtain ⟨-, -, -, hne, rfl⟩ := awaitedResponse?_eq_some.mp hresponse
      refine ⟨hne, fun ref href => ?_⟩
      rw [hchallenge]
      exact Challenge.update_of_getNonEmpty? href _
    · -- a second step that had been there before would have ended
      obtain rfl : step = some .second := hsecond
      have hmade' : made.step = some .second := by
        rcases hstep with hsame | ⟨hnone, -⟩
        · exact hsame.symm
        · cases hnone
      have hauth : made.authenticates := by
        rw [Context.authenticates, (stage_of_exec_fire_messageCreated h.stage hmade).second hmade']
        rfl
      exact absurd rfl (hends hauth rfl)

end Begins

/-! ### The requests -/

/-- An exchange that has been prepared has cleared its fields before, and has asked the passport for
the request. -/
theorem Begins.exec_requestAuthentication_of_round (h : Begins parties template queue n₀ k c n)
    (hround : openingRound? parties template c n = some x) :
    ∃ made, x.request = openingRequest template made ∧
      exec (requestAuthentication parties.application c.clearFields) n.session =
        (.ok made, x.before.session) := by
  rcases hmade : exec (fire parties .messageCreated c.clearFields) n with ⟨e | made, n₁⟩
  · rw [openingRound?, hmade] at hround
    cases hround
  · obtain rfl := Option.some.inj ((h.openingRound?_eq hmade).symm.trans hround)
    rw [exec_fire_messageCreated, inRun_eq_ok] at hmade
    obtain ⟨s, hmade, rfl⟩ := hmade
    exact ⟨made, rfl, hmade⟩

theorem Begins.requestsOpening (h : Begins parties template queue n₀ k c n)
    (hround : openingRound? parties template c n = some x) :
    RequestsOpening parties queue (commandRounds parties n₀ (.start template queue)) k x := by
  obtain ⟨t, ht⟩ : ∃ t, c.template? = some t := by
    rcases h.stage.template with ht | ht <;> exact ⟨_, ht⟩
  have hauth : c.clearFields.authenticates = t.authenticates := by
    rw [Context.authenticates_clearFields, Context.authenticates, ht, Option.any_some]
  obtain ⟨made, hrequest, hmade⟩ := h.exec_requestAuthentication_of_round hround
  have hspares : n.session.Spares (exec (requestAuthentication parties.application c.clearFields)
      n.session).2 := routine_spares.requestAuthentication parties.application c.clearFields _
  rw [hmade] at hspares
  have hopening (htemplate : made.template? = c.clearFields.template?) :
      x.request = .opening t made.fields := by
    rw [hrequest, openingRequest, htemplate, c.template?_clearFields, ht, Option.getD_some]
    rfl
  cases hsends : t.authenticates with
  | false =>
    rw [exec_requestAuthentication_of_not_authenticates (hauth.trans hsends)] at hmade
    obtain rfl := Except.ok.inj (Prod.mk.inj hmade).1
    have hnot : ¬(t = .start ∨ t = .startWithTan ∨ t = .synchronise) :=
      mt Template.authenticates_iff.mpr (by simp [hsends])
    exact ⟨t, _, hopening rfl, (if_neg hnot).mpr c.fields_clearFields⟩
  | true =>
    obtain ⟨id, u, hcurrent, hpassport, hmade⟩ :=
      exec_requestAuthentication_ok_of_authenticates (hauth.trans hsends) hmade
    obtain ⟨auto, hu⟩ := exec_currentMethod_ok hcurrent
    have hid : x.before.session.passport.current = some id := by rw [hpassport, hu]
    have hmethod : x.before.session.passport.catalog.get? id = u.passport.catalog.get? id := by
      rw [hpassport]
    dsimp only at hmade
    split at hmade
    case isTrue hversion =>
      subst hmade
      refine ⟨t, _, hopening rfl,
        (if_pos (Template.authenticates_iff.mp hsends)).mpr ⟨id, hid, ?_⟩⟩
      rw [hmethod]
      exact (if_pos hversion).mpr c.fields_clearFields
    case isFalse hversion =>
      obtain ⟨rfl, hbefore⟩ := hmade
      refine ⟨t, _, hopening (template?_withRequest _ _ _),
        (if_pos (Template.authenticates_iff.mp hsends)).mpr ⟨id, hid, ?_⟩⟩
      rw [hmethod]
      refine (if_neg hversion).mpr ⟨c.step.getD .first, u, ?_, hbefore, fun hstep => ?_⟩
      · rw [hpassport, ← h.queue_eq]
        exact holdsRequest_withRequest (hauth.trans hsends) c.fields_clearFields _ _ _ _ _
      · -- a step that is the second one has been so before
        have hsecond : c.step = some .second := by
          cases hc : c.step with
          | none =>
            rw [hc] at hstep
            cases hstep
          | some step =>
            rw [hc] at hstep
            exact congrArg some hstep
        rw [hspares.challenge]
        exact h.followsResponse hsecond

/-- **The requests of an opening.** What happens with the bank in a run that opens a dialog is what
happens in its exchanges, each of which begins with an attempt to encode its request. Every request
is in keeping with the method in use at that time, for which version 6 and variant two are assumed
where it has no catalog entry, and holds nothing of the requests before. It is one of the second
step only if the exchange before has brought a TAN response, and then it has the reference of that
response, if there is one. -/
theorem opening_requests (parties : Parties) (template : Template) (queue : Option MessageQueue)
    (n₀ : Connection) :
    let rounds := commandRounds parties n₀ (.start template queue)
    (exec (start parties template queue) n₀).2.events =
      rounds.reverse.flatMap (Round.events parties) ++ n₀.events ∧
    ∀ (k : Nat) (x : Round), rounds[k]? = some x → RequestsOpening parties queue rounds k x := by
  intro rounds
  have htrace := (governs_course parties).trace_commandRounds (.start template queue) n₀
  refine ⟨htrace.events_eq, fun k x hx => ?_⟩
  obtain ⟨c, n, h, hround⟩ := exists_begins hx
  exact h.requestsOpening hround

/-! ### A sample run -/

/-- The exchanges of a dialog whose opening is answered with a challenge. -/
def challengedRounds : List Round :=
  commandRounds challengingParties opticalConnection (.start .start none)

/-- The second request is one of the second step, and has the reference of the reply to the first
one. -/
theorem opening_requests_second :
    ∃ x fields, challengedRounds[1]? = some x ∧ x.request = .opening .startWithTan fields ∧
      fields.HoldsRequest "TAN2Step6" (openingValues none .two .second "R1" "") ∧
      FollowsResponse challengingParties challengedRounds 1 (some "R1") := by
  have hround : challengedRounds[1]?.any (fun x =>
      (match x.request with
        | .opening template fields =>
          template == .startWithTan && fields.get? "TAN2Step6.process" == some "2"
        | .tasks _ => false) &&
      x.before.session.passport.current == some "912" &&
      x.before.session.passport.catalog.get? "912" == some opticalMethod &&
      x.before.session.passport.challenge.orderRef == some "R1") := by
    decide +kernel
  obtain ⟨x, hx, hround⟩ := (Option.any_eq_true _ _).mp hround
  obtain ⟨t, fields, hrequest, hfields⟩ :=
    (opening_requests challengingParties .start none opticalConnection).2 1 x hx
  simp only [hrequest, Bool.and_eq_true, beq_iff_eq] at hround
  obtain ⟨⟨⟨⟨rfl, hprocess⟩, hcurrent⟩, hmethod⟩, hreference⟩ := hround
  obtain ⟨id, hid, hfields⟩ := (if_pos (by decide)).mp hfields
  obtain rfl := Option.some.inj (hcurrent.symm.trans hid)
  rw [hmethod] at hfields
  obtain ⟨step, s, hfields, -, hfollows⟩ := (if_neg (by decide)).mp hfields
  rw [hreference] at hfields hfollows
  have hcode : "2" = processCode .two step :=
    Option.some.inj (hprocess.symm.trans (hfields.get? _ List.mem_cons_self))
  obtain rfl : step = .second := by
    cases step with
    | first => exact absurd hcode (by decide)
    | second => rfl
  exact ⟨x, fields, hx, hrequest, hfields, hfollows rfl⟩

end Dialog

end TanDialog
