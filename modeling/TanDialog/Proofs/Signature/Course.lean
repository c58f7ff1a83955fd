import TanDialog.Proofs.Signature.Failure

/-!
# What the user is asked for a signature

A signature takes up to three questions, in this order: for the PIN where it is not known, for the
method where none is in use, and for a TAN where the message needs one. Under the one-step method
that is seen by a row of look-ups, one for each segment: the first one that needs a TAN settles the
matter, and the others are made but not asked about (`asked_oneStepTan`). Under any other method it
is seen by the challenge (`asked_twoStepTan`). An answer goes into the signature unless it is empty
(`answered`). `signing_course` puts the questions and answers together.
-/

namespace TanDialog

/-- Whether a call asks for a TAN. -/
def Call.asksTan : Call → Bool
  | .requestTan .. => true
  | _ => false

namespace Passport

variable {app : Application} {s t : Session} {id : String}

/-! ### A row of look-ups -/

theorem perform_mapM_lookUpRequirement_cons (code : String) (codes : List String) (s : Session) :
    perform ((code :: codes).mapM lookUpRequirement) s =
      let row := perform (codes.mapM lookUpRequirement)
        { s with passport := s.passport.lookedUp code }
      (s.passport.requirement code :: row.1, row.2) := by
  rw [List.mapM_cons]
  rfl

theorem snd_perform_mapM_lookUpRequirement (codes : List String) (s : Session) :
    (perform (codes.mapM lookUpRequirement) s).2 =
      { s with passport := codes.foldl lookedUp s.passport } := by
  induction codes generalizing s with
  | nil => rfl
  | cons code codes ih =>
    rw [perform_mapM_lookUpRequirement_cons, List.foldl_cons]
    exact ih _

/-- Up to the first segment that needs a TAN, the look-ups change nothing. -/
theorem firstRequired?_eq_none_iff (codes : List String) (s : Session) :
    s.passport.firstRequired? codes = none ↔
      .required ∉ (perform (codes.mapM lookUpRequirement) s).1 := by
  induction codes with
  | nil => exact iff_of_true rfl List.not_mem_nil
  | cons code codes ih =>
    rw [perform_mapM_lookUpRequirement_cons, List.mem_cons, not_or]
    by_cases hcode : s.passport.requirement code = .required
    · exact iff_of_false (by simp [firstRequired?, hcode]) fun h => h.1 hcode.symm
    · have hsame : { s with passport := s.passport.lookedUp code } = s := by
        rw [lookedUp_of_requirement_ne hcode]
      have hfirst : s.passport.firstRequired? (code :: codes) =
          s.passport.firstRequired? codes := by
        simp [firstRequired?, hcode]
      rw [hsame, hfirst, ih]
      exact (and_iff_right fun h => hcode h.symm).symm

theorem foldl_lookedUp_of_firstRequired?_eq_none {p : Passport} {codes : List String}
    (h : p.firstRequired? codes = none) : codes.foldl lookedUp p = p := by
  induction codes with
  | nil => rfl
  | cons code codes ih =>
    have hnone : ∀ c ∈ code :: codes, p.requirement c ≠ .required := by
      simpa [firstRequired?] using h
    rw [List.forall_mem_cons] at hnone
    rw [List.foldl_cons, lookedUp_of_requirement_ne hnone.1]
    exact ih (by simpa [firstRequired?] using hnone.2)

theorem verifyTanMode_foldl_lookedUp_of_eq_false {p : Passport} (h : p.verifyTanMode = false)
    (codes : List String) : (codes.foldl lookedUp p).verifyTanMode = false := by
  induction codes generalizing p with
  | nil => exact h
  | cons code codes ih =>
    refine ih ?_
    rw [lookedUp]
    split
    · rfl
    · exact h

/-- A verification is over once its segment has been looked up. -/
theorem verifyTanMode_foldl_lookedUp {p : Passport} {codes : List String} {code : String}
    (hcode : code ∈ codes) (h : p.bpd.any (p.verifies · code)) :
    (codes.foldl lookedUp p).verifyTanMode = false := by
  induction codes with
  | nil => exact absurd hcode List.not_mem_nil
  | cons c codes ih =>
    rw [List.foldl_cons]
    by_cases hc : p.bpd.any (p.verifies · c)
    · refine verifyTanMode_foldl_lookedUp_of_eq_false ?_ codes
      rw [lookedUp, if_pos hc]
    · rw [lookedUp_eq_self_iff.mpr hc]
      refine ih ((List.mem_cons.mp hcode).resolve_left ?_)
      rintro rfl
      exact hc h

/-! ### The question for a TAN -/

/-- Under the one-step method the user is asked once if any of the look-ups calls for a TAN. -/
theorem asked_oneStepTan (app : Application) (codes : List String) (s : Session) :
    let row := perform (codes.mapM lookUpRequirement) s
    let asked := if .required ∈ row.1 then some oneStepCall else none
    let out := exec (oneStepTan app "" codes) s
    out.1 = answered app s.calls asked ∧ out.2.calls = asked.toList ++ s.calls ∧
      ∀ tan, out.1 = .ok tan → out.2.passport = row.2.passport := by
  dsimp only
  rw [exec_oneStepTan, snd_perform_mapM_lookUpRequirement]
  cases hfirst : s.passport.firstRequired? codes with
  | none =>
    rw [if_neg ((firstRequired?_eq_none_iff codes s).mp hfirst)]
    exact ⟨rfl, rfl, fun tan _ => (foldl_lookedUp_of_firstRequired?_eq_none hfirst).symm⟩
  | some code =>
    have hmem : .required ∈ (perform (codes.mapM lookUpRequirement) s).1 := by
      refine Decidable.not_not.mp fun hnone => ?_
      rw [(firstRequired?_eq_none_iff codes s).mpr hnone] at hfirst
      cases hfirst
    rw [if_pos hmem]
    dsimp only
    by_cases hempty : (app.answer (oneStepCall :: s.calls)).isEmpty
    · rw [if_pos hempty]
      refine ⟨(if_pos hempty).symm, rfl, fun tan h => ?_⟩
      cases h
    · rw [if_neg hempty]
      exact ⟨(if_neg hempty).symm, rfl, fun tan _ => rfl⟩

/-! ### The questions before it -/

/-- Between two sessions, PIN and method have been found, and the message can be signed. -/
structure Prepared (app : Application) (s : Session) (id : String) (t : Session) : Prop where
  hasPin : HasPin app s
  method : exec (currentMethod app false) (afterPin app s) = (.ok id, t)

/-- The user is asked for a method once at most. -/
theorem exists_calls_exec_currentMethod (app : Application) (recheck : Bool) (s : Session) :
    ∃ options : Option String, (exec (currentMethod app recheck) s).2.calls =
      (options.map Call.selectMethod).toList ++ s.calls := by
  rw [exec_currentMethod]
  cases s.passport.selection recheck with
  | keep id => exact ⟨none, rfl⟩
  | automatic id => exact ⟨none, rfl⟩
  | choose options =>
    refine ⟨some (MethodOption.render options), ?_⟩
    rw [exec_select_choose]
    dsimp only
    split <;> rfl

namespace Prepared

/-- What is found is kept, and the rest of the passport is as it was. -/
theorem passport_eq (h : Prepared app s id t) :
    ∃ autoSelected, t.passport =
      { s.passport with pin := some (pinFor app s), current := some id, autoSelected } :=
  exec_currentMethod_ok h.method

theorem exists_calls_eq (h : Prepared app s id t) :
    ∃ options : Option String, t.calls = (options.map Call.selectMethod).toList ++
      (if s.passport.pin = none then [.requestPin] else []) ++ s.calls := by
  obtain ⟨options, hcalls⟩ := exists_calls_exec_currentMethod app false (afterPin app s)
  rw [h.method, calls_afterPin, ← List.append_assoc] at hcalls
  exact ⟨options, hcalls⟩

/-- With PIN and method at hand, what is left of a signature is the TAN. -/
theorem exec_sign (h : Prepared app s id t) (message : List UInt8) :
    exec (sign app message) s =
      let out := exec (if id = Method.oneStepId then oneStepTan app "" (Segment.codes message)
        else twoStepTan app) t
      (out.1.map (pinFor app s ++ "|" ++ ·), out.2) := by
  rw [sign_eq, exec_bind, exec_obtainPin h.hasPin]
  dsimp only
  rw [signWith, exec_bind, h.method]
  dsimp only
  rw [← exec_bind_pure]
  split <;> rfl

end Prepared

/-- The last question for a signature is for a TAN, if that is asked for at all, and the signature
is made of its answer. -/
structure Signs (app : Application) (s t : Session) (asked : Option Call)
    (out : Except Error String × Session) : Prop where
  result : out.1 = (answered app t.calls asked).map (pinFor app s ++ "|" ++ ·)
  calls : out.2.calls = asked.toList ++ t.calls

theorem Prepared.signs_oneStep (h : Prepared app s Method.oneStepId t) (message : List UInt8) :
    let row := perform ((Segment.codes message).mapM lookUpRequirement) t
    let out := exec (sign app message) s
    Signs app s t (if .required ∈ row.1 then some oneStepCall else none) out ∧
      ∀ signature, out.1 = .ok signature → out.2.passport = row.2.passport := by
  obtain ⟨hresult, hcalls, hpassport⟩ := asked_oneStepTan app (Segment.codes message) t
  dsimp only
  rw [h.exec_sign, if_pos rfl]
  refine ⟨⟨congrArg (Except.map (pinFor app s ++ "|" ++ ·)) hresult, hcalls⟩,
    fun signature hok => ?_⟩
  dsimp only at hok
  cases htan : (exec (oneStepTan app "" (Segment.codes message)) t).1 with
  | ok tan => exact hpassport tan htan
  | error e =>
    rw [htan] at hok
    cases hok

theorem Prepared.signs_twoStep (h : Prepared app s id t) (htwo : id ≠ Method.oneStepId)
    (message : List UInt8) :
    let challenge := s.passport.challenge
    let out := exec (sign app message) s
    Signs app s t
        (challenge.text.map (tanCall (s.passport.catalog.get? id) · challenge.payload)) out ∧
      out.2.passport = { t.passport with challenge := challenge.used } := by
  obtain ⟨auto, ht⟩ := h.passport_eq
  have hid : t.passport.current = some id := by rw [ht]
  have hchallenge : t.passport.challenge = s.passport.challenge := by rw [ht]
  have hcatalog : t.passport.catalog = s.passport.catalog := by rw [ht]
  obtain ⟨hresult, hcalls, hpassport⟩ := asked_twoStepTan app hid
  rw [hchallenge, hcatalog] at hresult hcalls
  rw [hchallenge] at hpassport
  dsimp only
  rw [h.exec_sign, if_neg htwo]
  exact ⟨⟨congrArg (Except.map (pinFor app s ++ "|" ++ ·)) hresult, hcalls⟩, hpassport⟩

/-- Whatever the method is, no more than one TAN is asked for, and nothing else. -/
theorem Prepared.exists_signs (h : Prepared app s id t) (message : List UInt8) :
    ∃ asked, Signs app s t asked (exec (sign app message) s) ∧
      ∀ call, asked = some call → call.asksTan = true := by
  by_cases hone : id = Method.oneStepId
  · subst hone
    refine ⟨_, (h.signs_oneStep message).1, fun call hcall => ?_⟩
    split at hcall
    · rw [← Option.some.inj hcall]
      rfl
    · cases hcall
  · refine ⟨_, (h.signs_twoStep hone message).1, fun call hcall => ?_⟩
    obtain ⟨text, -, rfl⟩ := Option.map_eq_some_iff.mp hcall
    rfl

/-! ### Signatures -/

theorem exec_sign_of_not_hasPin (h : ¬ HasPin app s) (message : List UInt8) :
    exec (sign app message) s =
      (.error .emptyPin, { s with calls := .requestPin :: s.calls }) := by
  rw [sign_eq, exec_bind, exec_obtainPin_of_not_hasPin h]

/-- A message is signed only if PIN and method have been found. -/
theorem exists_prepared_of_exec_sign_ok {message : List UInt8} {signature : String}
    (h : (exec (sign app message) s).1 = .ok signature) : ∃ id t, Prepared app s id t := by
  obtain ⟨pin, t, hpin, h⟩ := exec_bind_ok.mp (Prod.ext h rfl)
  by_cases hhas : HasPin app s
  · obtain ⟨-, rfl⟩ := exec_obtainPin_ok hpin
    obtain ⟨id, t, hmethod, -⟩ := exec_bind_ok.mp h
    exact ⟨id, t, hhas, hmethod⟩
  · rw [exec_obtainPin_of_not_hasPin hhas] at hpin
    cases (Prod.mk.inj hpin).1

/-- The PIN is asked for before anything else, and not again. -/
theorem exists_calls_exec_sign (app : Application) (s : Session) (message : List UInt8) :
    ∃ later, (exec (sign app message) s).2.calls =
        later ++ (if s.passport.pin = none then [.requestPin] else []) ++ s.calls ∧
      .requestPin ∉ later := by
  have hchosen (options : Option String) :
      Call.requestPin ∉ (options.map Call.selectMethod).toList := by
    cases options <;> simp
  by_cases hhas : HasPin app s
  · rcases hmethod : exec (currentMethod app false) (afterPin app s) with ⟨e | id, t⟩
    · have hsign : exec (sign app message) s = (.error e, t) := by
        rw [sign_eq, exec_bind, exec_obtainPin hhas]
        dsimp only
        rw [signWith, exec_bind, hmethod]
      obtain ⟨options, hcalls⟩ := exists_calls_exec_currentMethod app false (afterPin app s)
      rw [hmethod, calls_afterPin, ← List.append_assoc] at hcalls
      exact ⟨_, by rw [hsign]; exact hcalls, hchosen options⟩
    · have hprepared : Prepared app s id t := ⟨hhas, hmethod⟩
      obtain ⟨asked, hsigns, htan⟩ := hprepared.exists_signs message
      obtain ⟨options, hcalls⟩ := hprepared.exists_calls_eq
      refine ⟨asked.toList ++ (options.map Call.selectMethod).toList, ?_, ?_⟩
      · rw [hsigns.calls, hcalls]
        simp only [List.append_assoc]
      · rw [List.mem_append, Option.mem_toList]
        rintro (hmem | hmem)
        · cases htan _ hmem
        · exact hchosen options hmem
  · refine ⟨[], ?_, List.not_mem_nil⟩
    rw [exec_sign_of_not_hasPin hhas, if_pos (Classical.not_imp.mp hhas).1]
    rfl

/-- The PIN is kept for the next message. -/
theorem pin_of_exec_sign_ok {message : List UInt8} {signature : String}
    (h : (exec (sign app message) s).1 = .ok signature) :
    (exec (sign app message) s).2.passport.pin = some (pinFor app s) := by
  obtain ⟨id, t, hprepared⟩ := exists_prepared_of_exec_sign_ok h
  obtain ⟨auto, ht⟩ := hprepared.passport_eq
  have hpin : t.passport.pin = some (pinFor app s) := by rw [ht]
  by_cases hone : id = Method.oneStepId
  · subst hone
    obtain ⟨mode, hrow⟩ := foldl_lookedUp_eq t.passport (Segment.codes message)
    rw [(hprepared.signs_oneStep message).2 signature h, snd_perform_mapM_lookUpRequirement, hrow]
    exact hpin
  · rw [(hprepared.signs_twoStep hone message).2]
    exact hpin

/-- A signature is made of the PIN and a TAN, which is there exactly if it has been asked for. -/
theorem exists_tan_of_exec_sign_ok {message : List UInt8} {signature : String}
    (h : (exec (sign app message) s).1 = .ok signature) :
    ∃ tan, ∃ asked : Option Call, signature = pinFor app s ++ "|" ++ tan ∧
      (exec (sign app message) s).2.calls.filter Call.asksTan =
        asked.toList ++ s.calls.filter Call.asksTan ∧
      (tan ≠ "" ↔ asked.isSome) := by
  obtain ⟨id, t, hprepared⟩ := exists_prepared_of_exec_sign_ok h
  obtain ⟨asked, hsigns, htan⟩ := hprepared.exists_signs message
  obtain ⟨options, hcalls⟩ := hprepared.exists_calls_eq
  have hfilter : t.calls.filter Call.asksTan = s.calls.filter Call.asksTan := by
    rw [hcalls, List.filter_append, List.filter_append]
    cases options <;> split <;> rfl
  have hasked : asked.toList.filter Call.asksTan = asked.toList := by
    rw [List.filter_eq_self]
    exact fun call hcall => htan call (Option.mem_toList.mp hcall)
  cases hanswered : answered app t.calls asked with
  | error e =>
    rw [hsigns.result, hanswered] at h
    cases h
  | ok tan =>
    rw [hsigns.result, hanswered] at h
    refine ⟨tan, asked, (Except.ok.inj h).symm, ?_, ne_empty_iff_of_answered_eq_ok hanswered⟩
    rw [hsigns.calls, List.filter_append, hasked, hfilter]

/-- **Signatures.** The PIN is asked for before anything else, exactly if it is not known, and an
empty one is refused. Once the method is known as well, one TAN at most is asked for, and an empty
one is refused. Under the one-step method the segments of the message are looked up one after the
other, and a TAN is asked for exactly if one of them needs it; a verification is over then. Under
any other method a TAN is asked for exactly if a challenge is stored, with the name of the method,
its hint, the challenge and its flicker code; the challenge is used up by that, and the order
reference stays. The signature is the PIN, which is kept, and the TAN, which is there exactly if it
has been asked for. -/
theorem signing_course (app : Application) (s : Session) (message : List UInt8) :
    let p := s.passport
    let pinCall := if p.pin = none then [Call.requestPin] else []
    let codes := Segment.codes message
    let out := exec (sign app message) s
    -- the PIN
    (∃ later, out.2.calls = later ++ pinCall ++ s.calls ∧ .requestPin ∉ later) ∧
    (p.pin = none → app.answer (.requestPin :: s.calls) = "" →
      out = (.error .emptyPin, { s with calls := .requestPin :: s.calls })) ∧
    (∀ id t, Prepared app s id t →
      ∃ options : Option String,
        t.calls = (options.map Call.selectMethod).toList ++ pinCall ++ s.calls) ∧
    -- the TAN under the one-step method
    (∀ t, Prepared app s Method.oneStepId t →
      let row := perform (codes.mapM lookUpRequirement) t
      let asked := if .required ∈ row.1 then some (.requestTan oneStepPrompt none) else none
      Signs app s t asked out ∧
      ∀ signature, out.1 = .ok signature →
        out.2.passport = row.2.passport ∧
        ∀ code ∈ codes, t.passport.bpd.any (t.passport.verifies · code) →
          out.2.passport.verifyTanMode = false) ∧
    -- the TAN under any other method
    (∀ id t, id ≠ Method.oneStepId → Prepared app s id t →
      let method := p.catalog.get? id
      let name := (method.map Method.name).getD ""
      let hint := (method.map Method.inputInfo).getD ""
      let asked := p.challenge.text.map fun text => .requestTan
        (name ++ "\n" ++ hint ++ "\n\n" ++ text) (Flicker.decode p.challenge.payload (some text))
      Signs app s t asked out ∧
      ∀ signature, out.1 = .ok signature →
        out.2.passport.challenge =
          { text := none, payload := none, orderRef := p.challenge.orderRef }) ∧
    -- the signature
    ∀ signature, out.1 = .ok signature →
      (∃ id t, Prepared app s id t) ∧
      (∃ tan, ∃ asked : Option Call, signature = pinFor app s ++ "|" ++ tan ∧
        out.2.calls.filter Call.asksTan = asked.toList ++ s.calls.filter Call.asksTan ∧
        (tan ≠ "" ↔ asked.isSome)) ∧
      out.2.passport.pin = some (pinFor app s) := by
  refine ⟨exists_calls_exec_sign app s message, fun hnone hempty => ?_,
    fun id t h => h.exists_calls_eq, fun t h => ?_, fun id t htwo h => ?_, fun signature hok => ?_⟩
  · refine exec_sign_of_not_hasPin (fun hhas => hhas hnone ?_) message
    rw [pinFor, hnone]
    exact hempty
  · obtain ⟨hsigns, hpassport⟩ := h.signs_oneStep message
    refine ⟨hsigns, fun signature hok => ⟨hpassport signature hok, fun code hcode hverifies => ?_⟩⟩
    rw [hpassport signature hok, snd_perform_mapM_lookUpRequirement]
    exact verifyTanMode_foldl_lookedUp hcode hverifies
  · obtain ⟨hsigns, hpassport⟩ := h.signs_twoStep htwo message
    exact ⟨hsigns, fun signature _ => by rw [hpassport]; rfl⟩
  · exact ⟨exists_prepared_of_exec_sign_ok hok, exists_tan_of_exec_sign_ok hok,
      pin_of_exec_sign_ok hok⟩

/-! ### A sample -/

/-- A session in which transfers need a TAN under the one-step method, and so does the
identification while it is verified. -/
def transferSession : Session where
  passport :=
    { config := {}, verifyTanMode := true
      bpd := some (.ofList [("Params.PinTanPar.ParPinTan.can1step", "J"),
        ("Params.PinTanPar.ParPinTan.PinTanGV.segcode", "HKCCS"),
        ("Params.PinTanPar.ParPinTan.PinTanGV.needtan", "J")]) }

/-- A message with two transfers behind the identification. -/
def transferMessage : List UInt8 :=
  Text.utf8 "HKIDN:2:2+user?'s+0'HKCCS:3:1+10'HKCCS:4:1+20'"

/-- A user who enters a PIN and a TAN. -/
def securedUser : Application :=
  { steadyApplication "4711" with
    answer := fun calls => if calls = [.requestPin] then "12345" else "4711" }

/-- Three segments need a TAN, and the user is asked for one; and a challenge is asked about
once. -/
theorem signing_course_transfers :
    let first := exec (sign securedUser transferMessage) transferSession
    let second := exec (sign (steadyApplication "4711") transferMessage) challengedSession
    (first.1 = .ok "12345|4711" ∧ first.2.calls = [.requestTan "Enter TAN" none, .requestPin] ∧
      first.2.passport.verifyTanMode = false) ∧
    (second.1 = .ok "12345|4711" ∧ second.2.calls = [.requestTan "\n\n\nCode 4711" none] ∧
      second.2.passport.challenge = { orderRef := some "R1" }) ∧
    exec (sign (steadyApplication "") transferMessage) transferSession =
      (.error .emptyPin, { transferSession with calls := [.requestPin] }) := by
  intro first second
  refine ⟨?_, ?_, ?_⟩
  · obtain ⟨-, -, -, honeStep, -, -⟩ := signing_course securedUser transferSession transferMessage
    have hprepared : Prepared securedUser transferSession Method.oneStepId
        (exec (currentMethod securedUser false) (afterPin securedUser transferSession)).2 :=
      ⟨fun _ => by decide, rfl⟩
    obtain ⟨hsigns, hkept⟩ := honeStep _ hprepared
    have hresult : first.1 = .ok "12345|4711" := hsigns.result.trans rfl
    obtain ⟨-, hover⟩ := hkept _ hresult
    exact ⟨hresult, hsigns.calls.trans rfl, hover "HKIDN" (by decide) (by decide)⟩
  · obtain ⟨-, -, -, -, htwoStep, -⟩ :=
      signing_course (steadyApplication "4711") challengedSession transferMessage
    have hprepared : Prepared (steadyApplication "4711") challengedSession "912"
        challengedSession := ⟨fun _ => by decide, rfl⟩
    obtain ⟨hsigns, hkept⟩ := htwoStep _ _ (by decide) hprepared
    have hresult : second.1 = .ok "12345|4711" := hsigns.result.trans rfl
    exact ⟨hresult, hsigns.calls.trans rfl, hkept _ hresult⟩
  · obtain ⟨-, hempty, -⟩ := signing_course (steadyApplication "") transferSession transferMessage
    exact hempty rfl rfl

end Passport

end TanDialog
