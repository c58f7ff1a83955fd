import TanDialog.Proofs.Signature

/-!
# Signatures that fail

A message is not signed if, and only if, the user gives no PIN, no TAN or no method on offer, and
what has been done until then stays done (`Refused`): the PIN and the method are kept, a
verification is over, and a challenge is used up. So a failure leaves the passport as it was only
if nothing had to be done before it (`passport_kept_iff_of_failed_signature`); and once a challenge
has met with an empty TAN, messages are signed without a TAN.
-/

namespace TanDialog.Passport

variable {app : Application} {s s' : Session} {e : Error} {message : List UInt8}

/-! ### Segments that need a TAN -/

/-- A look-up changes the passport exactly if it ends a verification. -/
theorem lookedUp_eq_self_iff {p : Passport} {code : String} :
    p.lookedUp code = p ↔ ¬ p.bpd.any (p.verifies · code) := by
  constructor
  · intro h hverifies
    obtain ⟨bpd, -, hbpd⟩ := Option.any_eq_true _ _ |>.mp hverifies
    have hmode : p.verifyTanMode = true := by
      simp only [verifies, Bool.and_eq_true] at hbpd
      exact hbpd.1.2
    rw [lookedUp, if_pos hverifies] at h
    have hover : false = p.verifyTanMode := congrArg verifyTanMode h
    rw [hmode] at hover
    cases hover
  · exact fun h => if_neg h

/-- The first of some segments that needs a TAN. -/
def firstRequired? (p : Passport) (codes : List String) : Option String :=
  codes.find? fun code => p.requirement code = .required

/-! ### The TAN under the one-step method -/

/-- The call that asks for the TAN under the one-step method. -/
def oneStepCall : Call := .requestTan oneStepPrompt none

/-- Once there is a TAN, the remaining segments are only looked up. -/
theorem exec_oneStepTan_of_tan {tan : String} (h : tan ≠ "") (codes : List String) (s : Session) :
    exec (oneStepTan app tan codes) s =
      (.ok tan, { s with passport := codes.foldl lookedUp s.passport }) := by
  induction codes generalizing s with
  | nil => rfl
  | cons code codes ih =>
    have hne : ¬ (s.passport.requirement code = .required ∧ tan.isEmpty = true) := by
      rintro ⟨-, hempty⟩
      exact h (String.isEmpty_iff.mp hempty)
    rw [oneStepTan, exec_bind, exec_lift, perform_lookUpRequirement]
    simp only [if_neg hne, exec_bind, exec_pure]
    exact ih _

/-- The user is asked for a TAN once, at the first segment that needs one. -/
theorem exec_oneStepTan (codes : List String) (s : Session) :
    exec (oneStepTan app "" codes) s =
      match s.passport.firstRequired? codes with
      | none => (.ok "", s)
      | some code =>
        let tan := app.answer (oneStepCall :: s.calls)
        if tan.isEmpty then
          (.error .emptyTan,
            { passport := s.passport.lookedUp code, calls := oneStepCall :: s.calls })
        else
          (.ok tan,
            { passport := codes.foldl lookedUp s.passport, calls := oneStepCall :: s.calls }) := by
  unfold oneStepCall
  induction codes with
  | nil => rfl
  | cons code codes ih =>
    rw [oneStepTan, exec_bind, exec_lift, perform_lookUpRequirement]
    by_cases hcode : s.passport.requirement code = .required
    · have hask : s.passport.requirement code = .required ∧ "".isEmpty = true := ⟨hcode, rfl⟩
      have hfirst : s.passport.firstRequired? (code :: codes) = some code := by
        simp [firstRequired?, hcode]
      simp only [hfirst, if_pos hask, exec_bind, exec_obtainTan]
      by_cases hempty : (app.answer (.requestTan oneStepPrompt none :: s.calls)).isEmpty = true
      · simp only [hempty, if_true]
      · simp only [if_neg hempty]
        exact exec_oneStepTan_of_tan (fun h => hempty (String.isEmpty_iff.mpr h)) codes _
    · have hask : ¬ (s.passport.requirement code = .required ∧ "".isEmpty = true) :=
        fun h => hcode h.1
      have hfirst : s.passport.firstRequired? (code :: codes) =
          s.passport.firstRequired? codes := by
        simp [firstRequired?, hcode]
      have hsame : s.passport.lookedUp code = s.passport := lookedUp_of_requirement_ne hcode
      rw [hfirst, List.foldl_cons, hsame, ← ih]
      simp only [if_neg hask, exec_bind, exec_pure]

/-! ### Why a message is not signed -/

theorem exec_obtainPin_error (h : exec (obtainPin app) s = (.error e, s')) :
    e = .emptyPin ∧ s.passport.pin = none ∧ s'.passport = s.passport := by
  have hpin : ¬ HasPin app s := by
    intro hpin
    rw [exec_obtainPin hpin] at h
    cases (Prod.mk.inj h).1
  rw [exec_obtainPin_of_not_hasPin hpin] at h
  obtain ⟨he, rfl⟩ := Prod.mk.inj h
  exact ⟨(Except.error.inj he).symm, (Classical.not_imp.mp hpin).1, rfl⟩

theorem exec_oneStepTan_error {codes : List String}
    (h : exec (oneStepTan app "" codes) s = (.error e, s')) :
    e = .emptyTan ∧ ∃ code, s.passport.firstRequired? codes = some code ∧
      s'.passport = s.passport.lookedUp code := by
  rw [exec_oneStepTan] at h
  split at h
  case h_1 => cases (Prod.mk.inj h).1
  case h_2 code hcode =>
    dsimp only at h
    split at h
    case isTrue =>
      obtain ⟨he, rfl⟩ := Prod.mk.inj h
      exact ⟨(Except.error.inj he).symm, code, hcode, rfl⟩
    case isFalse => cases (Prod.mk.inj h).1

theorem exec_twoStepTan_error {id : String} (hid : s.passport.current = some id)
    (h : exec (twoStepTan app) s = (.error e, s')) :
    e = .emptyTan ∧ ∃ text, s.passport.challenge.text = some text ∧
      s'.passport = { s.passport with challenge := s.passport.challenge.used } := by
  rw [exec_twoStepTan hid] at h
  dsimp only at h
  split at h
  case h_1 => cases (Prod.mk.inj h).1
  case h_2 text htext =>
    split at h
    case isTrue =>
      obtain ⟨he, rfl⟩ := Prod.mk.inj h
      exact ⟨(Except.error.inj he).symm, text, htext, rfl⟩
    case isFalse => cases (Prod.mk.inj h).1

/-- The ways in which a signature fails, each with the passport that it leaves behind. -/
inductive Refused (app : Application) (s : Session) (message : List UInt8) :
    Error → Passport → Prop
  /-- The PIN is not known, and the user gives none. -/
  | pin (hpin : s.passport.pin = none) : Refused app s message .emptyPin s.passport
  /-- No method is in use, and the user chooses none of those on offer. -/
  | method (hcurrent : s.passport.current = none) :
      Refused app s message .invalidSelection (afterPin app s).passport
  /-- A segment needs a TAN under the one-step method, and the user gives none. -/
  | oneStepTan {t : Session} {code : String}
      (hid : exec (currentMethod app false) (afterPin app s) = (.ok Method.oneStepId, t))
      (hcode : t.passport.firstRequired? (Segment.codes message) = some code) :
      Refused app s message .emptyTan (t.passport.lookedUp code)
  /-- A challenge is stored under a two-step method, and the user gives no TAN for it. -/
  | twoStepTan {t : Session} {id text : String}
      (hid : exec (currentMethod app false) (afterPin app s) = (.ok id, t))
      (htwo : id ≠ Method.oneStepId) (htext : t.passport.challenge.text = some text) :
      Refused app s message .emptyTan
        { t.passport with challenge := t.passport.challenge.used }

/-- A signature fails in one of these ways. -/
theorem refused_of_exec_sign_error (h : exec (sign app message) s = (.error e, s')) :
    Refused app s message e s'.passport := by
  rcases exec_bind_error.mp h with hpin | ⟨pin, _, hpin, h⟩
  · obtain ⟨rfl, hnone, hs'⟩ := exec_obtainPin_error hpin
    rw [hs']
    exact .pin hnone
  obtain ⟨-, rfl⟩ := exec_obtainPin_ok hpin
  rcases exec_bind_error.mp h with hid | ⟨id, t, hid, h⟩
  · obtain ⟨rfl, hs', -⟩ := exec_currentMethod_error hid
    rw [hs']
    cases hcurrent : s.passport.current with
    | none => exact .method hcurrent
    | some id =>
      -- a method that is in use is found without asking
      rw [exec_currentMethod_of_some (s := afterPin app s) hcurrent] at hid
      cases (Prod.mk.inj hid).1
  dsimp only at h
  split at h
  case isTrue hone =>
    subst hone
    rcases exec_bind_error.mp h with htan | ⟨tan, u, -, h⟩
    · obtain ⟨rfl, code, hcode, hs'⟩ := exec_oneStepTan_error htan
      rw [hs']
      exact .oneStepTan hid hcode
    · cases (Prod.mk.inj h).1
  case isFalse htwo =>
    obtain ⟨auto, ht⟩ := exec_currentMethod_ok hid
    have hcurrent : t.passport.current = some id := by rw [ht]
    rcases exec_bind_error.mp h with htan | ⟨tan, u, -, h⟩
    · obtain ⟨rfl, text, htext, hs'⟩ := exec_twoStepTan_error hcurrent htan
      rw [hs']
      exact .twoStepTan hid htwo htext
    · cases (Prod.mk.inj h).1

/-! ### What a failure leaves behind -/

/-- The failures of a signature that leave the passport as it is: there is nothing that has been
obtained or used up before them. -/
def FailsInPlace (p : Passport) (message : List UInt8) : Error → Prop
  | .emptyPin => True
  | .invalidSelection => p.pin.isSome
  | .emptyTan =>
    p.pin.isSome ∧ p.current = some Method.oneStepId ∧
      ∀ code, p.firstRequired? (Segment.codes message) = some code →
        ¬ p.bpd.any (p.verifies · code)
  | _ => False

theorem afterPin_of_isSome (h : s.passport.pin.isSome) : afterPin app s = s := by
  obtain ⟨pin, hpin⟩ := Option.isSome_iff_exists.mp h
  have hs : s = { s with passport := { s.passport with pin := some pin } } := by rw [← hpin]
  simp only [afterPin, pinFor, hpin, Option.getD_some, Option.isNone_some]
  exact hs.symm

/-- Under the one-step method, a missing TAN leaves the passport as it was unless the PIN or the
method has just been obtained, or the segment was verified. -/
theorem lookedUp_eq_iff_failsInPlace {t : Session} {code : String}
    (hid : exec (currentMethod app false) (afterPin app s) = (.ok Method.oneStepId, t))
    (hcode : t.passport.firstRequired? (Segment.codes message) = some code) :
    t.passport.lookedUp code = s.passport ↔ FailsInPlace s.passport message .emptyTan := by
  -- where PIN and method were there before, finding them has changed nothing
  have hsame (hpin : s.passport.pin.isSome)
      (hcurrent : s.passport.current = some Method.oneStepId) : t = s := by
    rw [afterPin_of_isSome hpin, exec_currentMethod_of_some hcurrent] at hid
    exact (Prod.mk.inj hid).2.symm
  constructor
  · intro h
    obtain ⟨auto, ht⟩ := exec_currentMethod_ok hid
    have hmethod : { t.passport with verifyTanMode := (t.passport.lookedUp code).verifyTanMode } =
        s.passport := (lookedUp_eq _ _).symm.trans h
    rw [ht] at hmethod
    have hpin : s.passport.pin.isSome := congrArg (·.pin.isSome) hmethod.symm
    have hcurrent : s.passport.current = some Method.oneStepId :=
      congrArg current hmethod.symm
    obtain rfl := hsame hpin hcurrent
    refine ⟨hpin, hcurrent, fun code' hcode' => ?_⟩
    obtain rfl := Option.some.inj (hcode.symm.trans hcode')
    exact lookedUp_eq_self_iff.mp h
  · rintro ⟨hpin, hcurrent, hverifies⟩
    obtain rfl := hsame hpin hcurrent
    exact lookedUp_eq_self_iff.mpr (hverifies code hcode)

/-- Without a challenge, a message is signed by the PIN alone. -/
theorem exec_sign_of_no_challenge {pin id : String} (message : List UInt8)
    (hpin : s.passport.pin = some pin) (hid : s.passport.current = some id)
    (htwo : id ≠ Method.oneStepId) (htext : s.passport.challenge.text = none) :
    exec (sign app message) s =
      (.ok (pin ++ "|"),
        { s with passport := { s.passport with challenge := s.passport.challenge.used } }) := by
  have hobtained : exec (obtainPin app) s = (.ok pin, s) := by
    have hhas : HasPin app s := fun hnone => by
      rw [hpin] at hnone
      cases hnone
    rw [exec_obtainPin hhas, afterPin_of_isSome (by rw [hpin]; rfl), pinFor, hpin,
      Option.getD_some]
  have htan : exec (twoStepTan app) s =
      (.ok "",
        { s with passport := { s.passport with challenge := s.passport.challenge.used } }) := by
    rw [exec_twoStepTan hid, htext]
  rw [sign, exec_bind, hobtained]
  dsimp only
  rw [exec_bind, exec_currentMethod_of_some hid]
  simp only [if_neg htwo, exec_bind, htan, exec_pure, String.append_empty]

/-- **Failed signatures.** A signature fails only because of the user. It leaves the passport as it
was exactly if neither PIN nor method had to be obtained before, and neither a verification nor a
challenge was used up; where the failure is a missing TAN under a two-step method, the challenge is
lost, and the next message is signed without a TAN. -/
theorem passport_kept_iff_of_failed_signature
    (h : exec (sign app message) s = (.error e, s')) :
    e.isUserInput ∧
    (s'.passport = s.passport ↔ FailsInPlace s.passport message e) ∧
    (e = .emptyTan → s'.passport.current ≠ some Method.oneStepId →
      s.passport.challenge.text.isSome ∧
      ∀ message', exec (sign app message') s' = (.ok (pinFor app s ++ "|"), s')) := by
  have hrefused := refused_of_exec_sign_error h
  obtain ⟨p, calls⟩ := s'
  dsimp only at hrefused ⊢
  cases hrefused with
  | pin hpin => exact ⟨rfl, iff_of_true rfl trivial, fun he => by cases he⟩
  | method hcurrent =>
    refine ⟨rfl, ?_, fun he => by cases he⟩
    constructor
    · intro hsame
      exact congrArg (·.pin.isSome) hsame.symm
    · intro hpin
      exact congrArg Session.passport (afterPin_of_isSome hpin)
  | @oneStepTan t code hid hcode =>
    refine ⟨rfl, lookedUp_eq_iff_failsInPlace hid hcode, fun _ htwo => absurd ?_ htwo⟩
    obtain ⟨auto, ht⟩ := exec_currentMethod_ok hid
    rw [lookedUp_eq, ht]
  | @twoStepTan t id text hid htwo htext =>
    obtain ⟨auto, ht⟩ := exec_currentMethod_ok hid
    have hchallenge : t.passport.challenge = s.passport.challenge := by rw [ht]; rfl
    have hcurrent : t.passport.current = some id := by rw [ht]
    refine ⟨rfl, iff_of_false ?_ ?_, fun _ _ => ⟨?_, fun message' => ?_⟩⟩
    · -- the challenge was there before, and is gone
      intro hsame
      have hlost : none = s.passport.challenge.text := congrArg (·.challenge.text) hsame
      rw [← hchallenge, htext] at hlost
      cases hlost
    · rintro ⟨hpin, hone, -⟩
      rw [afterPin_of_isSome hpin, exec_currentMethod_of_some hone] at hid
      exact htwo (Except.ok.inj (Prod.mk.inj hid).1).symm
    · rw [← hchallenge, htext]
      rfl
    · have hpin : t.passport.pin = some (pinFor app s) := by rw [ht]; rfl
      let p : Passport := { t.passport with challenge := t.passport.challenge.used }
      exact exec_sign_of_no_challenge (s := ⟨p, calls⟩) message' hpin hcurrent htwo rfl

/-! ### A sample -/

/-- A session whose passport holds a challenge under a method of variant two. -/
def challengedSession : Session where
  passport :=
    { config := {}, verifyTanMode := false, pin := some "12345", current := some "912"
      challenge := { text := some "Code 4711", orderRef := some "R1" } }

/-- A user who enters no TAN loses the challenge. -/
theorem passport_kept_iff_of_failed_signature_sample :
    ∃ s', exec (sign (steadyApplication "") []) challengedSession = (.error .emptyTan, s') ∧
      s'.passport ≠ challengedSession.passport ∧
      exec (sign (steadyApplication "") []) s' = (.ok "12345|", s') := by
  have hfails : exec (sign (steadyApplication "") []) challengedSession =
      (.error .emptyTan, (exec (sign (steadyApplication "") []) challengedSession).2) := rfl
  obtain ⟨-, hkept, hlost⟩ := passport_kept_iff_of_failed_signature hfails
  refine ⟨_, hfails, fun hsame => ?_, (hlost rfl (by decide)).2 []⟩
  exact absurd (hkept.mp hsame).2.1 (by decide)

end TanDialog.Passport
