import TanDialog.Passport.Signature
import TanDialog.Proofs.Operations

/-!
# Signatures under a two-step method

A message that is signed under a two-step method uses up the challenge, whether or not there is one
(`exec_sign_ok`). What comes of the question for a TAN is `answered`: none where there was nothing
to ask, and never an empty one where there was. If a challenge is stored, and the user does not
leave PIN and TAN empty, the signature is `PIN|TAN` (`exec_sign_of_challenge`).
-/

namespace TanDialog

/-- The challenge without what a TAN answers to; the order reference stays. -/
def Challenge.used (c : Challenge) : Challenge := { c with text := none, payload := none }

/-- A challenge that comes after the last one has been used up is the new one as a whole. -/
theorem Challenge.storeResponse_used (c : Challenge) (response : PropertySet) :
    c.used.storeResponse response =
      { text := response.getNonEmpty? "challenge"
        payload := response.getNonEmpty? "challenge_hhd_uc"
        orderRef := update c.orderRef (response.get? "orderref") } := by
  have hupdate (new : Option String) : update none new = new.filter (!·.isEmpty) := by
    rw [update]
    cases new.filter (!·.isEmpty) <;> rfl
  simp only [storeResponse, store, used, hupdate, PropertySet.getNonEmpty?]

theorem PropertySet.isEmpty_of_getNonEmpty? {s : PropertySet} {path value : String}
    (h : s.getNonEmpty? path = some value) : s.isEmpty = false := by
  have hget : s.get? path = some value := (Option.filter_eq_some_iff.mp h).1
  have hmem := Dictionary.mem_of_lookup hget
  simp [Dictionary.isEmpty, List.ne_nil_of_mem hmem]

/-- A value that is not empty replaces the old one. -/
theorem Challenge.update_of_getNonEmpty? {response : PropertySet} {name value : String}
    (h : response.getNonEmpty? name = some value) (old : Option String) :
    update old (response.get? name) = some value := by
  rw [PropertySet.getNonEmpty?] at h
  rw [update, h]

namespace Passport

variable {app : Application} {s s' : Session}

/-! ### The PIN -/

/-- The PIN by which a message is signed in a session: the one that is known, or the answer of the
user. -/
def pinFor (app : Application) (s : Session) : String :=
  s.passport.pin.getD (app.answer (.requestPin :: s.calls))

/-- The session after the PIN has been obtained. -/
def afterPin (app : Application) (s : Session) : Session where
  passport := { s.passport with pin := some (pinFor app s) }
  calls := if s.passport.pin.isNone then .requestPin :: s.calls else s.calls

theorem calls_afterPin (app : Application) (s : Session) :
    (afterPin app s).calls = (if s.passport.pin = none then [.requestPin] else []) ++ s.calls := by
  rw [afterPin]
  cases s.passport.pin <;> rfl

/-- Whether there is a PIN to sign with. -/
def HasPin (app : Application) (s : Session) : Prop := s.passport.pin = none → pinFor app s ≠ ""

theorem exec_obtainPin (h : HasPin app s) :
    exec (obtainPin app) s = (.ok (pinFor app s), afterPin app s) := by
  rw [HasPin] at h
  simp only [obtainPin, exec_bind, exec_lift, Session.perform_getPassport]
  cases hp : s.passport.pin with
  | some pin =>
    have hs : s = { s with passport := { s.passport with pin := some pin } } := by rw [← hp]
    simp only [pinFor, afterPin, hp, exec_pure, Option.getD_some, Option.isNone_some]
    exact congrArg (Prod.mk _) hs
  | none =>
    have hne : (app.answer (.requestPin :: s.calls)).isEmpty = false := by
      simpa [pinFor, hp] using h hp
    simp only [pinFor, afterPin, hp, exec_bind, exec_lift, Session.perform_ask, hne]
    rfl

theorem exec_obtainPin_of_not_hasPin (h : ¬ HasPin app s) :
    exec (obtainPin app) s = (.error .emptyPin, { s with calls := .requestPin :: s.calls }) := by
  obtain ⟨hp, hempty⟩ := Classical.not_imp.mp h
  have hempty : (app.answer (.requestPin :: s.calls)).isEmpty = true := by
    simpa [pinFor, hp] using hempty
  simp only [obtainPin, exec_bind, exec_lift, Session.perform_getPassport, hp,
    Session.perform_ask, hempty]
  rfl

theorem exec_obtainPin_ok {pin : String} (h : exec (obtainPin app) s = (.ok pin, s')) :
    pin = pinFor app s ∧ s' = afterPin app s := by
  by_cases hpin : HasPin app s
  · rw [exec_obtainPin hpin] at h
    obtain ⟨hok, rfl⟩ := Prod.mk.inj h
    exact ⟨(Except.ok.inj hok).symm, rfl⟩
  · rw [exec_obtainPin_of_not_hasPin hpin] at h
    cases (Prod.mk.inj h).1

/-! ### The TAN -/

theorem exec_obtainTan (prompt : String) (flicker : Option String) :
    exec (obtainTan app prompt flicker) s =
      let tan := app.answer (.requestTan prompt flicker :: s.calls)
      (if tan.isEmpty then .error .emptyTan else .ok tan,
        { s with calls := .requestTan prompt flicker :: s.calls }) := by
  simp only [obtainTan, exec_bind, exec_lift, Session.perform_ask]
  split <;> rfl

/-- The call that asks for the TAN to the stored challenge. -/
def tanCall (method : Option Method) (text : String) (payload : Option String) : Call :=
  .requestTan (twoStepPrompt method text) (Flicker.decode payload (some text))

/-- The TAN by which a message is signed in a session: the answer to the challenge, for which the
user is asked after the PIN. -/
def tanFor (app : Application) (s : Session) (method : Option Method) (text : String)
    (payload : Option String) : String :=
  app.answer (tanCall method text payload :: (afterPin app s).calls)

/-- The challenge is used up before the user is asked. -/
theorem exec_twoStepTan {id : String} (hid : s.passport.current = some id) :
    exec (twoStepTan app) s =
      let used := { s.passport with challenge := s.passport.challenge.used }
      match s.passport.challenge.text with
      | none => (.ok "", { s with passport := used })
      | some text =>
        let call := tanCall (s.passport.catalog.get? id) text s.passport.challenge.payload
        let tan := app.answer (call :: s.calls)
        (if tan.isEmpty then .error .emptyTan else .ok tan,
          { passport := used, calls := call :: s.calls }) := by
  simp only [twoStepTan, currentMethodInfo, exec_bind, exec_currentMethod_of_some hid, exec_lift,
    Session.perform_getPassport, Session.perform_modifyPassport, exec_pure]
  cases ht : s.passport.challenge.text with
  | none => rfl
  | some text =>
    simp only [exec_obtainTan, tanCall]
    rfl

/-- The TAN that comes of a question, if there is one. -/
def answered (app : Application) (calls : List Call) : Option Call → Except Error String
  | none => .ok ""
  | some call =>
    let tan := app.answer (call :: calls)
    if tan.isEmpty then .error .emptyTan else .ok tan

/-- A TAN is not empty if and only if the user has been asked for it. -/
theorem ne_empty_iff_of_answered_eq_ok {calls : List Call} {asked : Option Call} {tan : String}
    (h : answered app calls asked = .ok tan) : tan ≠ "" ↔ asked.isSome := by
  cases asked with
  | none =>
    obtain rfl := Except.ok.inj h
    simp
  | some call =>
    rw [answered] at h
    split at h
    case isTrue => cases h
    case isFalse hne =>
      obtain rfl := Except.ok.inj h
      exact iff_of_true (fun hempty => hne (String.isEmpty_iff.mpr hempty)) rfl

/-- The user is asked once if there is a challenge, which is used up in any case. -/
theorem asked_twoStepTan (app : Application) {id : String} (hid : s.passport.current = some id) :
    let challenge := s.passport.challenge
    let asked := challenge.text.map (tanCall (s.passport.catalog.get? id) · challenge.payload)
    let out := exec (twoStepTan app) s
    out.1 = answered app s.calls asked ∧ out.2.calls = asked.toList ++ s.calls ∧
      out.2.passport = { s.passport with challenge := challenge.used } := by
  dsimp only
  rw [exec_twoStepTan hid]
  cases s.passport.challenge.text with
  | none => exact ⟨rfl, rfl, rfl⟩
  | some text => exact ⟨rfl, rfl, rfl⟩

/-! ### The signature -/

/-- The signature by a PIN that is known. -/
def signWith (app : Application) (message : List UInt8) (pin : String) : Action String := do
  let id ← currentMethod app false
  let tan ←
    if id = Method.oneStepId then oneStepTan app "" (Segment.codes message) else twoStepTan app
  return pin ++ "|" ++ tan

theorem sign_eq (message : List UInt8) :
    sign app message = obtainPin app >>= signWith app message := rfl

/-- A signature begins with the PIN. -/
theorem exec_signWith_ok {message : List UInt8} {pin signature : String}
    (h : exec (signWith app message pin) s = (.ok signature, s')) :
    ∃ tan, signature = pin ++ "|" ++ tan := by
  obtain ⟨id, t, -, h⟩ := exec_bind_ok.mp h
  dsimp only at h
  split at h
  · obtain ⟨tan, u, -, h⟩ := exec_bind_ok.mp h
    exact ⟨tan, (Except.ok.inj (Prod.mk.inj h).1).symm⟩
  · obtain ⟨tan, u, -, h⟩ := exec_bind_ok.mp h
    exact ⟨tan, (Except.ok.inj (Prod.mk.inj h).1).symm⟩

/-- A message that has been signed under a two-step method went through the question for the TAN. -/
theorem exec_twoStepTan_of_exec_sign_ok {id signature : String} {message : List UInt8}
    (hid : s.passport.current = some id) (htwo : id ≠ Method.oneStepId)
    (h : exec (sign app message) s = (.ok signature, s')) :
    ∃ tan, exec (twoStepTan app) (afterPin app s) = (.ok tan, s') ∧
      signature = pinFor app s ++ "|" ++ tan := by
  obtain ⟨pin, t, hpin, h⟩ := exec_bind_ok.mp h
  obtain ⟨rfl, rfl⟩ := exec_obtainPin_ok hpin
  have hid' : (afterPin app s).passport.current = some id := hid
  rw [exec_bind, exec_currentMethod_of_some hid'] at h
  simp only [if_neg htwo] at h
  obtain ⟨tan, t, htan, h⟩ := exec_bind_ok.mp h
  obtain ⟨hsignature, rfl⟩ := Prod.mk.inj h
  exact ⟨tan, htan, (Except.ok.inj hsignature).symm⟩

/-- **Signing uses up the challenge.** Under a two-step method a message that has been signed leaves
neither a challenge nor a payload behind, and all else but the PIN is as it was. -/
theorem exec_sign_ok {id signature : String} {message : List UInt8}
    (hid : s.passport.current = some id) (htwo : id ≠ Method.oneStepId)
    (h : exec (sign app message) s = (.ok signature, s')) :
    s'.passport = { (afterPin app s).passport with challenge := s.passport.challenge.used } := by
  have hid' : (afterPin app s).passport.current = some id := hid
  obtain ⟨tan, htan, -⟩ := exec_twoStepTan_of_exec_sign_ok hid htwo h
  obtain ⟨-, -, hpassport⟩ := asked_twoStepTan app hid'
  rw [htan] at hpassport
  exact hpassport

/-- A message that has been signed under a two-step method has a TAN exactly if a challenge was
stored. -/
theorem signature_of_exec_sign_ok {id signature : String} {message : List UInt8}
    (hid : s.passport.current = some id) (htwo : id ≠ Method.oneStepId)
    (h : exec (sign app message) s = (.ok signature, s')) :
    ∃ tan, signature = pinFor app s ++ "|" ++ tan ∧
      (tan ≠ "" ↔ ∃ text, s.passport.challenge.text = some text) := by
  have hid' : (afterPin app s).passport.current = some id := hid
  obtain ⟨tan, htan, rfl⟩ := exec_twoStepTan_of_exec_sign_ok hid htwo h
  obtain ⟨hresult, -, -⟩ := asked_twoStepTan app hid'
  rw [htan] at hresult
  refine ⟨tan, rfl, (ne_empty_iff_of_answered_eq_ok hresult.symm).trans ?_⟩
  rw [Option.isSome_map, Option.isSome_iff_exists]
  rfl

/-- **Signing with a TAN.** If a challenge is stored under a two-step method, the signature is
`PIN|TAN`, where the TAN is the answer to the challenge, about which the user is asked last. -/
theorem exec_sign_of_challenge {id text tan : String} (message : List UInt8)
    (hid : s.passport.current = some id) (htwo : id ≠ Method.oneStepId)
    (htext : s.passport.challenge.text = some text) (hpin : HasPin app s)
    (htan : tanFor app s (s.passport.catalog.get? id) text s.passport.challenge.payload = tan)
    (hne : tan ≠ "") :
    ∃ s', exec (sign app message) s = (.ok (pinFor app s ++ "|" ++ tan), s') ∧
      s'.calls = tanCall (s.passport.catalog.get? id) text s.passport.challenge.payload ::
        (afterPin app s).calls := by
  have hid' : (afterPin app s).passport.current = some id := hid
  have htext' : (afterPin app s).passport.challenge.text = some text := htext
  have hanswer : (if tan.isEmpty then .error .emptyTan else .ok tan : Except Error String) =
      .ok tan := if_neg (mt String.isEmpty_iff.mp hne)
  obtain ⟨s', hs', hcalls⟩ : ∃ s', exec (twoStepTan app) (afterPin app s) = (.ok tan, s') ∧
      s'.calls = tanCall (s.passport.catalog.get? id) text s.passport.challenge.payload ::
        (afterPin app s).calls := by
    rw [exec_twoStepTan hid', htext']
    subst htan
    exact ⟨_, congrArg (Prod.mk · _) hanswer, rfl⟩
  refine ⟨s', exec_bind_ok.mpr ⟨_, _, exec_obtainPin hpin, ?_⟩, hcalls⟩
  rw [exec_bind, exec_currentMethod_of_some hid']
  simp only [if_neg htwo]
  exact exec_bind_ok.mpr ⟨tan, s', hs', rfl⟩

end Passport

end TanDialog
