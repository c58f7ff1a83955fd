import TanDialog.Proofs.Reaction.Outcome

/-!
# Strong authentication as a state machine

While a dialog is opened, its context has no step, is in the first step or in the second one.
Whoever drives the dialog has the passport handle the two events of an opening, and in between
clears the fields, sets the status and takes the flag (`Move`). In any order of such moves, refused
ones included, preparing the opening leads to the first step, a challenge leads from there to the
second one, and the next reply ends it (`authentication_steps`).

What a single move may do depends on how the context has come about: `Stage` holds of a new context
and after every move, and with it a move obeys the laws of the steps (`Obeys`).
-/

namespace TanDialog.Passport

/-- What is done with the context of an opening. -/
inductive Move
  /-- The passport prepares the opening. -/
  | created
  /-- The passport reacts to the reply. -/
  | sent
  | clearFields
  | setStatus (status : ReplyStatus)
  | takeAgain

/-- Makes a move, which only the passport may refuse. -/
def Move.run (app : Application) : Move → Context → Effect (Except Error Unit × Context)
  | created, c => handle app .messageCreated c
  | sent, c => handle app .messageSent c
  | clearFields, c => return (.ok (), c.clearFields)
  | setStatus status, c => return (.ok (), { c with status := some status })
  | takeAgain, c => return (.ok (), c.takeAgain.2)

/-- Makes moves, one after the other, whether or not the passport refuses some of them. -/
def runMoves (app : Application) : List Move → Context → Effect Context
  | [], c => return c
  | m :: moves, c => do
    let (_, c) ← m.run app c
    runMoves app moves c

/-- How far a context can have come that was made for a template. -/
structure Stage (t : Template) (c : Context) (p : Passport) : Prop where
  template : c.template? = some t ∨ c.template? = some .startWithTan
  second : c.step = some .second → c.template? = some .startWithTan
  credentials : c.step = some .second → c.anonymous = false ∧ p.anonymous = false
  /-- Without strong authentication nothing happens. -/
  inactive : t.authenticates = false → c.step = none ∧ c.template? = some t ∧ c.fields = ∅

/-- The laws of the steps, for a move from a context in a session to another one. -/
structure Obeys (m : Move) (result : Except Error Unit) (c : Context) (s : Session) (c' : Context)
    (s' : Session) : Prop where
  /-- The first step begins with an opening that is prepared. -/
  begins : c.step = none → c'.step ≠ none →
    c'.step = some .first ∧ m = .created ∧ result = .ok ()
  /-- The second step comes after the first one, with a challenge and without an exemption. -/
  advances : c.step ≠ some .second → c'.step = some .second →
    c.step = some .first ∧ m = .sent ∧ result = .ok () ∧
      c.anonymous = false ∧ s.passport.anonymous = false ∧
      ∃ status, c.status = some status ∧ (status.data.find responseQuery).isEmpty = false ∧
        ¬ status.Warns 3076
  /-- There is no way back to the first step. -/
  remains : c.step = some .second → c'.step = some .second ∨ c'.step = none
  /-- The second step ends with a reply. -/
  ends : c.step = some .second →
    (c'.step = none ↔ m = .sent ∧ result = .ok () ∧ c.status.isSome)
  challenge : s'.passport.challenge ≠ s.passport.challenge →
    c.step = some .first ∧ c'.step = some .second
  again : c.step = some .first → c'.step = some .second → c'.again
  refused : ∀ e, result = .error e →
    c'.step = c.step ∧ c'.template? = c.template? ∧ c'.fields = c.fields ∧
      s'.passport.challenge = s.passport.challenge

variable {app : Application} {t : Template} {m : Move} {result : Except Error Unit}
  {c c' : Context} {p p' : Passport} {s s' : Session}

/-! ### Moves that stay in a step -/

theorem Stage.ofTemplate (t : Template) (p : Passport) : Stage t (.ofTemplate t) p where
  template := .inl rfl
  second := fun h => by cases h
  credentials := fun h => by cases h
  inactive := fun _ => ⟨rfl, rfl, rfl⟩

theorem Stage.keep (h : Stage t c p) (htemplate : c'.template? = c.template?)
    (hstep : c'.step = c.step ∨ c'.step = none) (hfields : c'.fields = c.fields ∨ c'.fields = ∅)
    (hanon : c'.anonymous = c.anonymous) (hpass : p'.anonymous = p.anonymous) :
    Stage t c' p' := by
  have hsecond (hc' : c'.step = some .second) : c.step = some .second := by
    rcases hstep with hsame | hnone
    · rw [← hsame, hc']
    · rw [hnone] at hc'
      cases hc'
  refine ⟨?_, fun hc' => ?_, fun hc' => ?_, fun ht => ?_⟩
  · rw [htemplate]
    exact h.template
  · rw [htemplate]
    exact h.second (hsecond hc')
  · rw [hanon, hpass]
    exact h.credentials (hsecond hc')
  · obtain ⟨hnone, hsame, hempty⟩ := h.inactive ht
    rw [hnone, or_self] at hstep
    rw [hempty, or_self] at hfields
    exact ⟨hstep, htemplate.trans hsame, hfields⟩

/-- A move that changes neither step nor challenge obeys the laws, unless it should have ended the
second step. -/
theorem Obeys.of_step_eq (hstep : c'.step = c.step)
    (hchallenge : s'.passport.challenge = s.passport.challenge)
    (hrefused : ∀ e, result = .error e → c' = c)
    (hends : c.step = some .second → ¬ (m = .sent ∧ result = .ok () ∧ c.status.isSome)) :
    Obeys m result c s c' s' where
  begins := fun hnone hne => absurd (hstep.trans hnone) hne
  advances := fun hne hsecond => absurd (hstep.symm.trans hsecond) hne
  remains := fun hsecond => .inl (hstep.trans hsecond)
  ends := fun hsecond => by
    rw [hstep, hsecond]
    exact iff_of_false (by simp) (hends hsecond)
  challenge := fun hne => absurd hchallenge hne
  again := fun hfirst hsecond => by
    rw [hstep, hfirst] at hsecond
    cases hsecond
  refused := fun e he => by
    rw [hrefused e he]
    exact ⟨rfl, rfl, rfl, hchallenge⟩

/-! ### The events -/

/-- A context in the stage of a template without strong authentication has none either. -/
theorem Stage.authenticates (h : Stage t c p) (hc : c.authenticates) : t.authenticates := by
  rw [← Bool.not_eq_false]
  intro ht
  rw [Context.authenticates, (h.inactive ht).2.1, Option.any_some, ht] at hc
  cases hc

/-- Preparing the opening writes a request into it, or leaves it alone; the challenge is spared. -/
theorem messageCreated_cases
    (h : perform (handle app .messageCreated c) s = ((result, c'), s')) :
    s.Spares s' ∧ (c' = c ∨ c.authenticates ∧ result = .ok () ∧
      ∃ version request, c' = withRequest c version request) := by
  have hhandle : handle app .messageCreated c = unlessFailing c (requestAuthentication app c) := rfl
  have hspares : s.Spares (exec (requestAuthentication app c) s).2 :=
    routine_spares.requestAuthentication app c s
  rw [hhandle] at h
  cases result with
  | ok =>
    have hrequest := perform_unlessFailing_ok.mp h
    rw [hrequest] at hspares
    refine ⟨hspares, ?_⟩
    rcases exec_requestAuthentication_ok hrequest with hsame | ⟨id, u, -, hauth, -, hc', -⟩
    · exact .inl hsame
    · exact .inr ⟨hauth, rfl, _, _, hc'⟩
  | error e =>
    obtain ⟨hrequest, hc'⟩ := perform_unlessFailing_error.mp h
    rw [hrequest] at hspares
    exact ⟨hspares, .inl hc'⟩

/-- Neither event changes whether there are credentials. -/
theorem anonymous_of_perform_handle {e : Event}
    (h : perform (handle app e c) s = ((result, c'), s')) :
    s'.passport.anonymous = s.passport.anonymous := by
  have hevolves := evolving_handle app e c s
  rw [h] at hevolves
  exact congrArg Settings.anonymous hevolves.settings_eq

theorem Stage.messageCreated (hstage : Stage t c s.passport)
    (h : perform (handle app .messageCreated c) s = ((result, c'), s')) :
    Stage t c' s'.passport := by
  have hpass := anonymous_of_perform_handle h
  obtain ⟨-, rfl | ⟨hauth, -, version, request, rfl⟩⟩ := messageCreated_cases h
  · exact hstage.keep rfl (.inl rfl) (.inl rfl) rfl hpass
  · have hsecond (hstep : (withRequest c version request).step = some .second) :
        c.step = some .second := by
      cases hc : c.step with
      | none => simp [withRequest, hc] at hstep
      | some step => simpa [withRequest, hc] using hstep
    refine ⟨?_, fun hstep => ?_, fun hstep => ?_, fun ht => ?_⟩
    · rw [template?_withRequest]
      exact hstage.template
    · rw [template?_withRequest]
      exact hstage.second (hsecond hstep)
    · rw [hpass]
      exact hstage.credentials (hsecond hstep)
    · rw [hstage.authenticates hauth] at ht
      cases ht

theorem obeys_messageCreated (h : perform (handle app .messageCreated c) s = ((result, c'), s')) :
    Obeys .created result c s c' s' := by
  obtain ⟨hspares, rfl | ⟨-, rfl, version, request, rfl⟩⟩ := messageCreated_cases h
  · exact .of_step_eq rfl hspares.challenge (fun _ _ => rfl) (fun _ hsent => by cases hsent.1)
  · cases hc : c.step with
    | some step =>
      have hstep : (withRequest c version request).step = c.step := by simp [withRequest, hc]
      exact .of_step_eq hstep hspares.challenge (fun e he => by cases he)
        (fun _ hsent => by cases hsent.1)
    | none =>
      -- the first step begins
      have hstep : (withRequest c version request).step = some .first := by simp [withRequest, hc]
      exact
        { begins := fun _ _ => ⟨hstep, rfl, rfl⟩
          advances := fun _ hsecond => by
            rw [hstep] at hsecond
            cases hsecond
          remains := fun hsecond => by
            rw [hc] at hsecond
            cases hsecond
          ends := fun hsecond => by
            rw [hc] at hsecond
            cases hsecond
          challenge := fun hne => absurd hspares.challenge hne
          again := fun hfirst _ => by
            rw [hc] at hfirst
            cases hfirst
          refused := fun e he => by cases he }

/-- A reaction that is refused leaves context and challenge alone. -/
theorem messageSent_refused {e : Error}
    (h : perform (handle app .messageSent c) s = ((.error e, c'), s')) :
    c' = c ∧ s'.passport.challenge = s.passport.challenge := by
  obtain ⟨hreact, hc'⟩ := perform_unlessFailing_error.mp h
  obtain ⟨-, pin, hs'⟩ := passport_of_exec_react_error hreact
  rw [enrolledFrom, enroll_eq] at hs'
  exact ⟨hc', by rw [hs']⟩

theorem Stage.messageSent (hstage : Stage t c s.passport)
    (h : perform (handle app .messageSent c) s = ((result, c'), s')) :
    Stage t c' s'.passport := by
  have hpass := anonymous_of_perform_handle h
  cases result with
  | error e =>
    obtain ⟨rfl, -⟩ := messageSent_refused h
    exact hstage.keep rfl (.inl rfl) (.inl rfl) rfl hpass
  | ok =>
    rcases exec_react_ok_cases (perform_unlessFailing_ok.mp h) with
      ⟨status, response, -, hresponse, hanon, hpass', rfl, -⟩ |
      ⟨step, again, rfl, -, hstep, -⟩
    · have hauth := (awaitedResponse?_eq_some.mp hresponse).1
      refine ⟨.inr (template?_advance hauth), fun _ => template?_advance hauth,
        fun _ => ⟨hanon, hpass.trans hpass'⟩, fun ht => ?_⟩
      rw [hstage.authenticates hauth] at ht
      cases ht
    · exact hstage.keep rfl (hstep.imp_right And.left) (.inl rfl) rfl hpass

theorem Stage.obeys_messageSent (hstage : Stage t c s.passport)
    (h : perform (handle app .messageSent c) s = ((result, c'), s')) :
    Obeys .sent result c s c' s' := by
  cases result with
  | error e =>
    obtain ⟨rfl, hchallenge⟩ := messageSent_refused h
    exact .of_step_eq rfl hchallenge (fun _ _ => rfl) (fun _ hends => by cases hends.2.1)
  | ok =>
    rcases exec_react_ok_cases (perform_unlessFailing_ok.mp h) with
      ⟨status, response, hstatus, hresponse, hanon, hpass, rfl, -⟩ |
      ⟨step, again, rfl, hchallenge, rfl | ⟨rfl, hwhy⟩, hends⟩
    · -- a challenge leads on to the second step
      obtain ⟨hauth, hfirst, hexempt, hne, -⟩ := awaitedResponse?_eq_some.mp hresponse
      have hwarns := ReplyStatus.warningsWith_eq_nil_iff.mp hexempt
      exact
        { begins := fun hnone => by
            rw [hfirst] at hnone
            cases hnone
          advances := fun _ _ =>
            ⟨hfirst, rfl, rfl, hanon, hpass, status, hstatus, hne, hwarns⟩
          remains := fun _ => .inl rfl
          ends := fun hsecond => by
            rw [hfirst] at hsecond
            cases hsecond
          challenge := fun _ => ⟨hfirst, rfl⟩
          again := fun _ _ => rfl
          refused := fun e he => by cases he }
    · -- the step stays, and so it is not the second one if there is a reply
      refine .of_step_eq rfl hchallenge (fun e he => by cases he) fun hsecond hsent => ?_
      have hauth : c.authenticates := by
        rw [Context.authenticates, hstage.second hsecond]
        rfl
      exact hends hauth hsent.2.2 hsecond
    · -- the step is given up
      exact
        { begins := fun _ hne => absurd rfl hne
          advances := fun _ hsecond => by cases hsecond
          remains := fun _ => .inr rfl
          ends := fun hsecond => by
            obtain ⟨hanon, hpass⟩ := hstage.credentials hsecond
            rw [hanon, hpass] at hwhy
            exact iff_of_true rfl ⟨rfl, rfl, by simpa using hwhy⟩
          challenge := fun hne => absurd hchallenge hne
          again := fun _ hsecond => by cases hsecond
          refused := fun e he => by cases he }

/-! ### Runs of moves -/

/-- **A single move.** It keeps to the stage and obeys the laws. -/
theorem Stage.move (hstage : Stage t c s.passport)
    (h : perform (m.run app c) s = ((result, c'), s')) :
    Stage t c' s'.passport ∧ Obeys m result c s c' s' := by
  cases m with
  | created => exact ⟨hstage.messageCreated h, obeys_messageCreated h⟩
  | sent => exact ⟨hstage.messageSent h, hstage.obeys_messageSent h⟩
  | clearFields =>
    obtain ⟨hresult, rfl⟩ := Prod.mk.inj h
    obtain ⟨rfl, rfl⟩ := Prod.mk.inj hresult
    exact ⟨hstage.keep c.template?_clearFields (.inl rfl) (.inr c.fields_clearFields) rfl rfl,
      .of_step_eq rfl rfl (fun e he => by cases he) (fun _ hsent => by cases hsent.1)⟩
  | setStatus status =>
    obtain ⟨hresult, rfl⟩ := Prod.mk.inj h
    obtain ⟨rfl, rfl⟩ := Prod.mk.inj hresult
    exact ⟨hstage.keep rfl (.inl rfl) (.inl rfl) rfl rfl,
      .of_step_eq rfl rfl (fun e he => by cases he) (fun _ hsent => by cases hsent.1)⟩
  | takeAgain =>
    obtain ⟨hresult, rfl⟩ := Prod.mk.inj h
    obtain ⟨rfl, rfl⟩ := Prod.mk.inj hresult
    exact ⟨hstage.keep rfl (.inl rfl) (.inl rfl) rfl rfl,
      .of_step_eq rfl rfl (fun e he => by cases he) (fun _ hsent => by cases hsent.1)⟩

theorem Stage.runMoves (app : Application) (hstage : Stage t c s.passport) (moves : List Move) :
    Stage t (perform (runMoves app moves c) s).1 (perform (runMoves app moves c) s).2.passport := by
  induction moves generalizing c s with
  | nil => exact hstage
  | cons m moves ih =>
    rcases h : perform (m.run app c) s with ⟨⟨result, c'⟩, s'⟩
    rw [Passport.runMoves, perform_bind, h]
    exact ih (hstage.move h).1

/-- **The steps of strong authentication.** After any series of moves from the context of a
template, the context has come to a stage of this template, and whatever move comes next obeys the
laws of the steps. -/
theorem authentication_steps (app : Application) (t : Template) (s : Session)
    (moves : List Move) :
    let reached := perform (runMoves app moves (.ofTemplate t)) s
    Stage t reached.1 reached.2.passport ∧
    ∀ m : Move,
      let moved := perform (m.run app reached.1) reached.2
      Obeys m moved.1.1 reached.1 reached.2 moved.1.2 moved.2 := by
  have hstage := Stage.runMoves app (Stage.ofTemplate t s.passport) moves
  exact ⟨hstage, fun m => (hstage.move rfl).2⟩

/-- An opening goes through both steps, and the reply to the second one ends it. -/
example :
    let challenge := ReplyStatus.ofData (.ofList [("TAN2StepRes6.challenge", "Code 4711")])
    let passport : Passport :=
      { config := {}, verifyTanMode := false, current := some "912"
        catalog := .ofList [("912", Method.bare "912" 6)] }
    let step moves :=
      (perform (runMoves (steadyApplication "") moves (.ofTemplate .start)) { passport }).1.step
    step [.created, .setStatus challenge, .sent] = some .second ∧
      step [.created, .setStatus challenge, .sent, .takeAgain, .created, .sent] = none :=
  ⟨rfl, rfl⟩

end TanDialog.Passport
