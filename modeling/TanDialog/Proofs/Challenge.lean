import TanDialog.Proofs.Reaction.Outcome
import TanDialog.Proofs.Signature.Failure

/-!
# What becomes of a challenge

A challenge comes with the reply to a message and is put to the user when a message is signed. In
between it is left alone: the routine of a passport neither touches it nor asks the user about it
(`routine_quiet`). A signature uses it up, if it gets that far, and asks the user only if there is
one (`sign_quiet_or_uses`). A reaction stores the TAN response of its reply, or nothing
(`react_takes`).
-/

namespace TanDialog

/-- Whether a call puts a challenge to the user. The one-step method has a prompt of its own. -/
def Call.putsChallenge : Call → Bool
  | .requestTan prompt _ => prompt != Passport.oneStepPrompt
  | _ => false

/-- The calls that put a challenge to the user. -/
def Session.prompts (s : Session) : List Call := s.calls.filter Call.putsChallenge

theorem Call.putsChallenge_of_not_aboutSecrets {c : Call} (h : c.aboutSecrets = false) :
    c.putsChallenge = false := by
  cases c <;> first | rfl | cases h

theorem Session.prompts_eq_of_filter_eq {s s' : Session}
    (h : s'.calls.filter Call.aboutSecrets = s.calls.filter Call.aboutSecrets) :
    s'.prompts = s.prompts := by
  have hfilter (calls : List Call) :
      (calls.filter Call.aboutSecrets).filter Call.putsChallenge =
        calls.filter Call.putsChallenge := by
    rw [List.filter_filter]
    refine List.filter_congr fun c _ => ?_
    cases hc : c.aboutSecrets with
    | true => rw [Bool.and_true]
    | false => rw [Bool.and_false, c.putsChallenge_of_not_aboutSecrets hc]
  rw [prompts, prompts, ← hfilter, h, hfilter]

namespace Session

/-- The challenge stays as it is, and none is put to the user. -/
structure Quiet (s s' : Session) : Prop where
  challenge : s'.passport.challenge = s.passport.challenge
  prompts : s'.prompts = s.prompts

/-- The challenge is used up, and put to the user if it has a text. -/
structure Uses (s s' : Session) : Prop where
  challenge : s'.passport.challenge = s.passport.challenge.used
  prompts : ∃ method, s'.prompts =
    (s.passport.challenge.text.map
      (Passport.tanCall method · s.passport.challenge.payload)).toList ++ s.prompts

variable {s t s' : Session}

theorem Spares.quiet (h : s.Spares s') : s.Quiet s' :=
  ⟨h.challenge, prompts_eq_of_filter_eq h.calls⟩

theorem Quiet.refl (s : Session) : s.Quiet s := ⟨rfl, rfl⟩

theorem Quiet.trans (h : s.Quiet t) (h' : t.Quiet s') : s.Quiet s' :=
  ⟨h'.challenge.trans h.challenge, h'.prompts.trans h.prompts⟩

theorem Quiet.trans_uses (h : s.Quiet t) (h' : t.Uses s') : s.Uses s' := by
  obtain ⟨hchallenge, method, hprompts⟩ := h'
  rw [h.challenge] at hchallenge hprompts
  rw [h.prompts] at hprompts
  exact ⟨hchallenge, method, hprompts⟩

end Session

/-- The routine of a passport is quiet. -/
theorem routine_quiet : Routine Session.Quiet where
  refl := .refl
  trans h h' := h.trans h'
  call s {_} hc := (routine_spares.call s hc).quiet
  lookUp s code := (routine_spares.lookUp s code).quiet
  takeMethod s id auto := (routine_spares.takeMethod s id auto).quiet
  enroll s methods := (routine_spares.enroll s methods).quiet

namespace Passport

variable {app : Application} {α β : Type} {c c' : Context} {s s' : Session}

/-! ### Signatures -/

/-- A prompt of a two-step method has several lines, and that of the one-step method has one. -/
theorem putsChallenge_tanCall (method : Option Method) (text : String) (payload : Option String) :
    (tanCall method text payload).putsChallenge := by
  have hne : twoStepPrompt method text ≠ oneStepPrompt := by
    intro heq
    have hmem : '\n' ∈ (twoStepPrompt method text).toList := by simp [twoStepPrompt]
    rw [heq] at hmem
    exact absurd hmem (by decide)
  simpa [tanCall, Call.putsChallenge] using hne

/-- What is quiet may come before the use of a challenge. -/
theorem quiet_bind_uses {x : Action α} {f : α → Action β} (hx : Within Session.Quiet x.run)
    (hf : ∀ a, Within (fun s s' => s.Quiet s' ∨ s.Uses s') (f a).run) :
    Within (fun s s' => s.Quiet s' ∨ s.Uses s') (x >>= f).run := by
  intro s
  have hs : s.Quiet (exec x s).2 := hx s
  rw [perform_run, exec_bind]
  generalize exec x s = o at hs
  obtain ⟨_ | a, t⟩ := o
  · exact .inl hs
  · exact (hf a t).imp hs.trans hs.trans_uses

theorem quiet_obtainPin (app : Application) : Within Session.Quiet (obtainPin app).run := by
  intro s
  simp only [perform_run, obtainPin, exec_bind, exec_lift, Session.perform_getPassport]
  cases s.passport.pin with
  | some pin => exact .refl s
  | none =>
    simp only [exec_bind, exec_lift, Session.perform_ask]
    split <;> exact ⟨rfl, rfl⟩

/-- Under the one-step method segments are looked up, and the user is asked by its prompt at
most. -/
theorem snd_exec_oneStepTan (app : Application) (codes : List String) (s : Session) :
    ∃ verifyTanMode calls, (exec (oneStepTan app "" codes) s).2 =
        { passport := { s.passport with verifyTanMode }, calls } ∧
      (calls = s.calls ∨ calls = oneStepCall :: s.calls) := by
  rw [exec_oneStepTan]
  split
  case h_1 => exact ⟨_, _, rfl, .inl rfl⟩
  case h_2 code _ =>
    dsimp only
    split
    · rw [lookedUp_eq]
      exact ⟨_, _, rfl, .inr rfl⟩
    · obtain ⟨verifyTanMode, h⟩ := foldl_lookedUp_eq s.passport codes
      rw [h]
      exact ⟨_, _, rfl, .inr rfl⟩

theorem quiet_oneStepTan (app : Application) (codes : List String) :
    Within Session.Quiet (oneStepTan app "" codes).run := by
  intro s
  obtain ⟨verifyTanMode, calls, h, hcalls⟩ := snd_exec_oneStepTan app codes s
  rw [perform_run, h]
  rcases hcalls with rfl | rfl <;> exact ⟨rfl, rfl⟩

theorem uses_twoStepTan (app : Application) :
    Within (fun s s' => s.Quiet s' ∨ s.Uses s') (twoStepTan app).run := by
  refine quiet_bind_uses (routine_quiet.currentMethodInfo app) fun method s => .inr ?_
  simp only [perform_run, exec_bind, exec_lift, Session.perform_getPassport,
    Session.perform_modifyPassport]
  cases ht : s.passport.challenge.text with
  | none => exact ⟨rfl, method, by rw [ht]; rfl⟩
  | some text =>
    simp only [exec_obtainTan]
    refine ⟨rfl, method, ?_⟩
    rw [ht]
    exact List.filter_cons_of_pos (putsChallenge_tanCall method text s.passport.challenge.payload)

/-- Working on the result neither asks nor uses anything. -/
theorem uses_bind_pure {x : Action α} (f : α → β)
    (hx : Within (fun s s' => s.Quiet s' ∨ s.Uses s') x.run) :
    Within (fun s s' => s.Quiet s' ∨ s.Uses s') (x >>= fun a => pure (f a)).run := by
  intro s
  rw [perform_run, exec_bind_pure]
  exact hx s

/-- **Signatures.** When a message is signed, nothing happens to the challenge, or it is used up,
whether or not the passport refuses in the end. -/
theorem sign_quiet_or_uses (app : Application) (message : List UInt8) :
    Within (fun s s' => s.Quiet s' ∨ s.Uses s') (sign app message).run := by
  refine quiet_bind_uses (quiet_obtainPin app) fun pin => ?_
  refine quiet_bind_uses (routine_quiet.currentMethod app false) fun id => ?_
  dsimp only
  split
  · exact uses_bind_pure _ fun s => .inl (quiet_oneStepTan app _ s)
  · exact uses_bind_pure _ (uses_twoStepTan app)

/-- A message that has been signed under a two-step method has used up the challenge. -/
theorem challenge_of_exec_sign_ok {message : List UInt8} {sig id : String}
    (h : exec (sign app message) s = (.ok sig, s')) (hid : s'.passport.current = some id)
    (htwo : id ≠ Method.oneStepId) :
    s'.passport.challenge = s.passport.challenge.used := by
  obtain ⟨pin, t, hpin, h⟩ := exec_bind_ok.mp h
  obtain ⟨rfl, rfl⟩ := exec_obtainPin_ok hpin
  obtain ⟨id', u, hmethod, h⟩ := exec_bind_ok.mp h
  obtain ⟨auto, hu⟩ := exec_currentMethod_ok hmethod
  have hcurrent : u.passport.current = some id' := by rw [hu]
  have hchallenge : u.passport.challenge = s.passport.challenge := by
    rw [hu]
    rfl
  dsimp only at h
  split at h
  case isTrue hone =>
    -- the method in use is still the one-step method after the signature
    obtain ⟨tan, v, htan, h⟩ := exec_bind_ok.mp h
    obtain ⟨-, rfl⟩ := Prod.mk.inj h
    obtain ⟨_, _, hv, -⟩ := snd_exec_oneStepTan app (Segment.codes message) u
    rw [htan] at hv
    dsimp only at hv
    rw [hv] at hid
    obtain rfl := Option.some.inj (hcurrent.symm.trans hid)
    exact absurd hone htwo
  case isFalse =>
    obtain ⟨tan, v, htan, h⟩ := exec_bind_ok.mp h
    obtain ⟨-, rfl⟩ := Prod.mk.inj h
    rw [exec_twoStepTan hcurrent] at htan
    dsimp only at htan
    rw [← hchallenge]
    split at htan
    · rw [← (Prod.mk.inj htan).2]
    · rw [← (Prod.mk.inj htan).2]

/-! ### Reactions -/

theorem prompts_forgetRefusedPin (c : Context) (s : Session) :
    (perform (forgetRefusedPin c) s).2.prompts = s.prompts := by
  rw [forgetRefusedPin]
  split <;> rfl

/-- **Reactions.** A reaction takes the TAN response of its reply if strong authentication takes
place with the opening, and nothing otherwise, whether or not it fails. -/
theorem react_takes (app : Application) (c : Context) (s : Session) :
    let s' := (exec (react app c) s).2
    s'.prompts = s.prompts ∧
      (s'.passport.challenge = s.passport.challenge ∨
        c.authenticates ∧ ∃ status, c.status = some status ∧
          s'.passport.challenge =
            s.passport.challenge.storeResponse (status.data.find responseQuery)) := by
  refine ⟨?_, ?_⟩
  · obtain ⟨-, -, hcalls⟩ := exec_react_after_check app c s
    have hspares := routine_spares.checkAllowedMethods app c (perform (forgetRefusedPin c) s).2
    exact ((Session.prompts_eq_of_filter_eq hcalls).trans hspares.quiet.prompts).trans
      (prompts_forgetRefusedPin c s)
  · rcases h : exec (react app c) s with ⟨e | c', s'⟩
    · obtain ⟨-, pin, hs'⟩ := passport_of_exec_react_error h
      rw [enrolledFrom, enroll_eq] at hs'
      exact .inl (by rw [hs'])
    · rcases exec_react_ok_cases h with
        ⟨status, response, hstatus, hresponse, -, -, -, hchallenge⟩ | ⟨_, _, -, hchallenge, -⟩
      · obtain ⟨hauth, -, -, -, rfl⟩ := awaitedResponse?_eq_some.mp hresponse
        exact .inr ⟨hauth, status, hstatus, hchallenge⟩
      · exact .inl hchallenge

end Passport

end TanDialog
