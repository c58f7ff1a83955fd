import TanDialog.Passport.Event
import TanDialog.Proofs.Authentication

/-!
# Reactions to a reply

What the passport does after a reply, one part after the other: a refused PIN is forgotten, the
methods that the bank allows are taken over, new identifiers are told to the user, and a challenge
is received. Each part is said to change only what it is about, and two courses of a whole reaction
follow: the one in which a challenge comes and nothing else concerns the method
(`exec_react_of_response`), and the one that changes the method in use (`exec_react_ok_of_changed`).
-/

namespace TanDialog.Passport

variable {app : Application} {c c' : Context} {s s' : Session}

/-! ### The parts of a reaction -/

theorem perform_forgetRefusedPin (c : Context) (s : Session) :
    ∃ pin calls, perform (forgetRefusedPin c) s =
      ((), { passport := { s.passport with pin }, calls }) := by
  rw [forgetRefusedPin]
  split
  · exact ⟨none, .wrongPin :: s.calls, rfl⟩
  · exact ⟨s.passport.pin, s.calls, rfl⟩

theorem perform_reportChangedIds (c : Context) (s : Session) :
    ∃ calls, perform (reportChangedIds c) s = ((), { s with calls }) := by
  rw [reportChangedIds]
  split
  · split
    case h_1 ids _ => exact ⟨.userIdChanged ids :: s.calls, rfl⟩
    case h_2 => exact ⟨s.calls, rfl⟩
  · exact ⟨s.calls, rfl⟩

theorem exec_checkAllowedMethods_of_nil (h : warningsWith c .methodsAllowed = []) :
    exec (checkAllowedMethods app c) s = (.ok c, s) := by
  simp [checkAllowedMethods, h]

theorem enroll_eq (p : Passport) (methods : NameSet) :
    p.enroll methods = { p with enrolled := (p.enroll methods).enrolled } := by
  rw [enroll]
  split <;> rfl

/-- What the bank allows bears on the methods only, and a change of the method in use raises the
flag that repeats the opening. -/
theorem exec_checkAllowedMethods_ok (h : exec (checkAllowedMethods app c) s = (.ok c', s')) :
    (∃ enrolled current auto, s'.passport =
        { s.passport with enrolled, current, autoSelected := auto }) ∧
      (c' = c ∧ s'.passport.current = s.passport.current ∨
        ∃ id, c' = { c with again := true } ∧ s'.passport.current = some id ∧
          c.anonymous = false ∧ s.passport.anonymous = false) := by
  unfold checkAllowedMethods at h
  dsimp only at h
  split at h
  case isTrue =>
    obtain ⟨hok, rfl⟩ := Prod.mk.inj h
    exact ⟨⟨_, _, _, rfl⟩, .inl ⟨(Except.ok.inj hok).symm, rfl⟩⟩
  case isFalse =>
    simp only [exec_bind, exec_lift, Session.perform_modifyPassport,
      Session.perform_getPassport] at h
    rw [enroll_eq] at h
    split at h
    case isTrue =>
      obtain ⟨hok, rfl⟩ := Prod.mk.inj h
      exact ⟨⟨_, _, _, rfl⟩, .inl ⟨(Except.ok.inj hok).symm, rfl⟩⟩
    case isFalse hanon =>
      obtain ⟨id, t, hid, h⟩ := exec_bind_ok.mp h
      obtain ⟨hok, rfl⟩ := Prod.mk.inj h
      obtain ⟨auto, ht⟩ := exec_currentMethod_ok hid
      refine ⟨⟨_, _, auto, ht⟩, ?_⟩
      simp only [Bool.or_eq_true, not_or, Bool.not_eq_true] at hanon
      have hc' := (Except.ok.inj hok).symm
      rw [ht]
      split at hc'
      case isTrue hsame => exact .inl ⟨hc', hsame.symm⟩
      case isFalse => exact .inr ⟨id, hc', rfl, hanon.1.1, hanon.1.2⟩

/-! ### A whole reaction -/

theorem anonymous_of_exec_react_ok (h : exec (react app c) s = (.ok c', s')) :
    c'.anonymous = c.anonymous := by
  obtain ⟨-, t, -, h⟩ := exec_bind_ok.mp h
  obtain ⟨c₁, t₁, hallowed, h⟩ := exec_bind_ok.mp h
  obtain ⟨-, t₂, -, h⟩ := exec_bind_ok.mp h
  obtain ⟨_, _, _, _, hreceived⟩ := perform_receiveChallenge c₁ t₂
  have hc' : c'.anonymous = c₁.anonymous := by
    rw [exec_lift, hreceived] at h
    exact (Except.ok.inj (Prod.mk.inj h).1) ▸ rfl
  rcases (exec_checkAllowedMethods_ok hallowed).2 with ⟨rfl, -⟩ | ⟨_, rfl, -⟩
  · exact hc'
  · exact hc'

variable {status : ReplyStatus} {response : PropertySet}

/-- **A challenge comes.** Without a word on the allowed methods, a challenge for the first step is
stored and leads on to the second one; apart from it only the PIN may be forgotten. -/
theorem exec_react_of_response (app : Application) (hanon : c.anonymous = false)
    (hpass : s.passport.anonymous = false) (hstatus : c.status = some status)
    (hallowed : status.warningsWith .methodsAllowed = [])
    (hresponse : awaitedResponse? c status = some response) :
    ∃ s' pin, exec (react app c) s = (.ok (advance c), s') ∧
      s'.passport =
        { s.passport with pin, challenge := s.passport.challenge.storeResponse response } := by
  have hwarnings : warningsWith c .methodsAllowed = [] := by
    simp [warningsWith, hstatus, hallowed]
  obtain ⟨pin, calls, hpin⟩ := perform_forgetRefusedPin c s
  obtain ⟨calls', hids⟩ :=
    perform_reportChangedIds c { passport := { s.passport with pin }, calls }
  let passport : Passport :=
    { s.passport with pin, challenge := s.passport.challenge.storeResponse response }
  refine ⟨{ passport, calls := calls' }, pin, ?_, rfl⟩
  simp only [react, exec_bind, exec_lift, hpin, exec_checkAllowedMethods_of_nil hwarnings, hids]
  rw [perform_receiveChallenge_of_response hanon (by exact hpass) hstatus hresponse]

/-- **Nothing comes.** Without a word on the allowed methods, and outside of an opening, the context
stays as it is, and only the PIN may be forgotten. -/
theorem exec_react_of_not_authenticates (app : Application) (hauth : c.authenticates = false)
    (hallowed : warningsWith c .methodsAllowed = []) :
    ∃ s' pin, exec (react app c) s = (.ok c, s') ∧ s'.passport = { s.passport with pin } := by
  obtain ⟨pin, calls, hpin⟩ := perform_forgetRefusedPin c s
  obtain ⟨calls', hids⟩ :=
    perform_reportChangedIds c { passport := { s.passport with pin }, calls }
  have hreceive (t : Session) : perform (receiveChallenge c) t = (c, t) := by
    rw [receiveChallenge, hauth]
    rfl
  refine ⟨{ passport := { s.passport with pin }, calls := calls' }, pin, ?_, rfl⟩
  simp only [react, exec_bind, exec_lift, hpin, exec_checkAllowedMethods_of_nil hallowed, hids,
    hreceive]

/-- **The method changes.** A reaction that changes the method in use repeats the opening. If the
reply also brings a challenge, it is stored and leads on to the second step under the new method;
otherwise the opening is not in the second step any more. -/
theorem exec_react_ok_of_changed (hstatus : c.status = some status)
    (h : exec (react app c) s = (.ok c', s'))
    (hchanged : s'.passport.current ≠ s.passport.current) :
    (∃ id, s'.passport.current = some id) ∧
      match awaitedResponse? c status with
      | some response => c' = advance c ∧
          s'.passport.challenge = s.passport.challenge.storeResponse response
      | none => ∃ step, c' = { c with step, again := true } ∧
          (c.authenticates → step ≠ some .second) := by
  obtain ⟨pin, calls, hpin⟩ := perform_forgetRefusedPin c s
  rw [react, exec_bind, exec_lift, hpin] at h
  obtain ⟨c₁, s₁, hallowed, h⟩ := exec_bind_ok.mp h
  obtain ⟨⟨enrolled, current, auto, hs₁⟩, hcourse⟩ := exec_checkAllowedMethods_ok hallowed
  obtain ⟨calls', hids⟩ := perform_reportChangedIds c₁ s₁
  rw [exec_bind, exec_lift, hids] at h
  have hreceived : perform (receiveChallenge c₁) { s₁ with calls := calls' } = (c', s') := by
    obtain ⟨hc', hs'⟩ := Prod.mk.inj h
    exact Prod.ext (Except.ok.inj hc') hs'
  have hcurrent : s'.passport.current = s₁.passport.current := by
    obtain ⟨_, _, _, challenge, hs'⟩ := perform_receiveChallenge c₁ { s₁ with calls := calls' }
    exact congrArg (·.2.passport.current) (hreceived.symm.trans hs')
  rcases hcourse with ⟨-, hsame⟩ | ⟨id, rfl, hid, hanon, hpass⟩
  · exact absurd (hcurrent.trans hsame) hchanged
  refine ⟨⟨id, hcurrent.trans hid⟩, ?_⟩
  -- the raised flag has no bearing on whether a challenge is awaited
  have hawaited :
      awaitedResponse? { c with again := true } status = awaitedResponse? c status := rfl
  cases hresponse : awaitedResponse? c status with
  | some response =>
    rw [perform_receiveChallenge_of_response (c := { c with again := true }) hanon
      (by rw [hs₁]; exact hpass) hstatus (hawaited.trans hresponse)] at hreceived
    obtain ⟨rfl, rfl⟩ := Prod.mk.inj hreceived
    exact ⟨rfl, by rw [hs₁]⟩
  | none =>
    obtain ⟨step, hstep, -, hne⟩ := perform_receiveChallenge_of_no_response
      (c := { c with again := true }) { s₁ with calls := calls' } hstatus
      (hawaited.trans hresponse)
    rw [hstep] at hreceived
    obtain ⟨rfl, -⟩ := Prod.mk.inj hreceived
    exact ⟨step, rfl, hne⟩

end TanDialog.Passport
