import TanDialog.Passport.Event
import TanDialog.Passport.Signature
import TanDialog.Proofs.Agreement
import TanDialog.Proofs.Reaction

/-!
# Sessions that look alike

A likeness says which texts and which replies an observer cannot tell apart: PINs, TANs and
signatures, for one who does not know the secrets. Passports are alike if they differ only in their
PINs, which are alike themselves, and contexts if they differ only in replies that are alike. If the
answers of two applications are alike, then so is all that their passports do: every operation makes
the same calls and comes to results that are alike (`agree_sign`, `agree_handle`).
-/

namespace TanDialog

/-- What an observer of a dialog cannot tell apart. -/
structure Likeness where
  /-- PINs, TANs and signatures that look alike. -/
  texts : String → String → Prop
  /-- Replies that look alike. -/
  replies : PropertySet → PropertySet → Prop
  texts_empty : texts "" ""
  texts_signature : ∀ {pin pin' tan tan'}, texts pin pin' → texts tan tan' →
    texts (pin ++ "|" ++ tan) (pin' ++ "|" ++ tan')
  /-- Replies that look alike have the same return values about the message. -/
  global_eq : ∀ {d d'}, replies d d' →
    (ReplyStatus.ofData d').global = (ReplyStatus.ofData d).global
  /-- Replies that look alike have the same return values about segments. -/
  segment_eq : ∀ {d d'}, replies d d' →
    (ReplyStatus.ofData d').segment = (ReplyStatus.ofData d).segment
  /-- Replies that look alike have the same TAN response. -/
  response_eq : ∀ {d d'}, replies d d' →
    d'.find Passport.responseQuery = d.find Passport.responseQuery

namespace Likeness

variable (L : Likeness)

/-- Answers to requests for secrets: an empty one is told from one that is not. -/
structure Answers (a a' : String) : Prop where
  texts : L.texts a a'
  isEmpty_eq : a'.isEmpty = a.isEmpty

/-- Applications that give the same answers, except that they know secrets that are alike. -/
structure Applications (app app' : Application) : Prop where
  pin : ∀ calls, L.Answers (app.answer (.requestPin :: calls)) (app'.answer (.requestPin :: calls))
  tan : ∀ prompt flicker calls, L.Answers (app.answer (.requestTan prompt flicker :: calls))
    (app'.answer (.requestTan prompt flicker :: calls))
  method : ∀ options calls,
    app.answer (.selectMethod options :: calls) = app'.answer (.selectMethod options :: calls)
  medium : ∀ default calls,
    app.answer (.requestTanMedia default :: calls) = app'.answer (.requestTanMedia default :: calls)
  encodeSegment : app.encodeSegment = app'.encodeSegment
  challengeClass : app.challengeClass = app'.challengeClass

/-- Passports that differ only in their PINs, which are both there or both missing. -/
inductive Passports (p : Passport) : Passport → Prop
  | intro {pin : Option String} (h : Option.Rel L.texts p.pin pin) : Passports p { p with pin }

/-- Sessions with passports that are alike, in which the same calls have been made. -/
structure Sessions (s s' : Session) : Prop where
  passport : L.Passports s.passport s'.passport
  calls_eq : s'.calls = s.calls

/-- Statuses of replies that are alike. -/
structure Statuses (x x' : ReplyStatus) : Prop where
  global_eq : x'.global = x.global
  segment_eq : x'.segment = x.segment
  data : L.replies x.data x'.data

/-- Contexts that differ only in replies that are alike. -/
inductive Contexts (c : Context) : Context → Prop
  | intro {status : Option ReplyStatus} (h : Option.Rel L.Statuses c.status status) :
      Contexts c { c with status }

variable {L} {app app' : Application} {p p' : Passport} {c c' : Context}

theorem Passports.config_eq (h : L.Passports p p') : p'.config = p.config := by
  obtain ⟨-⟩ := h
  rfl

theorem Passports.anonymous_eq (h : L.Passports p p') : p'.anonymous = p.anonymous := by
  obtain ⟨-⟩ := h
  rfl

theorem statuses_ofData {d d' : PropertySet} (h : L.replies d d') :
    L.Statuses (.ofData d) (.ofData d') where
  global_eq := L.global_eq h
  segment_eq := L.segment_eq h
  data := h

namespace Statuses

variable {x x' : ReplyStatus} (h : L.Statuses x x')

include h

theorem all_eq : x'.all = x.all := by
  rw [ReplyStatus.all, h.global_eq, h.segment_eq, ReplyStatus.all]

theorem warningsWith_eq (k : KnownCode) : x'.warningsWith k = x.warningsWith k := by
  simp only [ReplyStatus.warningsWith, ReplyStatus.warnings, h.all_eq]

theorem authFailure?_eq : x'.authFailure? = x.authFailure? := by
  simp only [ReplyStatus.authFailure?, ReplyStatus.errors, h.all_eq]

theorem find_responseQuery : x'.data.find Passport.responseQuery =
    x.data.find Passport.responseQuery := L.response_eq h.data

end Statuses

theorem Contexts.warningsWith_eq (h : L.Contexts c c') (k : KnownCode) :
    Passport.warningsWith c' k = Passport.warningsWith c k := by
  obtain ⟨hstatus⟩ := h
  rw [Passport.warningsWith, Passport.warningsWith]
  dsimp only
  generalize c.status = status at hstatus
  cases hstatus with
  | none => rfl
  | some h => simp only [Option.map_some, h.warningsWith_eq]

theorem Contexts.authFailure?_eq (h : L.Contexts c c') :
    c'.status.bind ReplyStatus.authFailure? = c.status.bind ReplyStatus.authFailure? := by
  obtain ⟨hstatus⟩ := h
  dsimp only
  generalize c.status = status at hstatus
  cases hstatus with
  | none => rfl
  | some h => simp only [Option.bind_some, h.authFailure?_eq]

/-! ### Elementary steps -/

theorem agree_getPassport : Agree L.Sessions L.Passports Session.getPassport Session.getPassport :=
  fun _ _ hs => ⟨hs.passport, hs⟩

theorem agree_call (c : Call) : Agree L.Sessions Eq (Session.call c) (Session.call c) :=
  fun _ _ hs => ⟨rfl, hs.passport, congrArg (c :: ·) hs.calls_eq⟩

theorem agree_ask {A : String → String → Prop} (c : Call)
    (h : ∀ calls, A (app.answer (c :: calls)) (app'.answer (c :: calls))) :
    Agree L.Sessions A (Session.ask app c) (Session.ask app' c) := by
  intro s s' hs
  rw [Session.perform_ask, Session.perform_ask, hs.calls_eq]
  exact ⟨h s.calls, hs.passport, rfl⟩

theorem agree_modifyPassport {f f' : Passport → Passport}
    (h : ∀ p p', L.Passports p p' → L.Passports (f p) (f' p')) :
    Agree L.Sessions Eq (Session.modifyPassport f) (Session.modifyPassport f') :=
  fun _ _ hs => ⟨rfl, h _ _ hs.passport, hs.calls_eq⟩

end Likeness

namespace Passport

open Likeness

variable {L : Likeness} {app app' : Application}

/-! ### Look-ups and the method in use -/

theorem passports_lookedUp {p p' : Passport} (h : L.Passports p p') (code : String) :
    L.Passports (p.lookedUp code) (p'.lookedUp code) := by
  obtain @⟨pin, hpin⟩ := h
  let p' : Passport := { p with pin }
  have hverifies : p'.bpd.any (p'.verifies · code) = p.bpd.any (p.verifies · code) := rfl
  rw [lookedUp, lookedUp, hverifies]
  split
  · exact ⟨hpin⟩
  · exact ⟨hpin⟩

theorem passports_enroll {p p' : Passport} (h : L.Passports p p') (methods : NameSet) :
    L.Passports (p.enroll methods) (p'.enroll methods) := by
  obtain ⟨hpin⟩ := h
  rw [enroll, enroll]
  split
  · exact ⟨hpin⟩
  · exact ⟨hpin⟩

theorem agree_lookUpRequirement (code : String) :
    Agree L.Sessions Eq (lookUpRequirement code) (lookUpRequirement code) := by
  refine .bind agree_getPassport fun p _ ⟨_⟩ => ?_
  exact .bind_eq (agree_modifyPassport fun p p' hp => passports_lookedUp hp code) fun _ => .pure rfl

section

variable (happ : L.Applications app app')

include happ

theorem agree_currentMethod (recheck : Bool) :
    Agree L.Sessions (OrFail Eq) (currentMethod app recheck).run
      (currentMethod app' recheck).run := by
  refine .bind_run (.lift agree_getPassport) fun p _ hp => ?_
  obtain @⟨pin, -⟩ := hp
  -- the selection of a method does not read the PIN
  have hselection : ({ p with pin } : Passport).selection recheck = p.selection recheck := rfl
  rw [hselection]
  cases p.selection recheck with
  | keep id => exact .ok rfl
  | automatic id =>
    exact .bind_run_eq (.lift (agree_modifyPassport fun p _ ⟨hpin⟩ => ⟨hpin⟩)) fun _ => .ok rfl
  | choose options =>
    refine .bind_run_eq (.lift (agree_ask _ (happ.method _))) fun answer => ?_
    split
    · exact .bind_run_eq (.lift (agree_modifyPassport fun p _ ⟨hpin⟩ => ⟨hpin⟩)) fun _ => .ok rfl
    · exact .throw _

theorem agree_currentMethodInfo :
    Agree L.Sessions (OrFail Eq) (currentMethodInfo app).run (currentMethodInfo app').run := by
  refine .bind_run_eq (agree_currentMethod happ false) fun id => ?_
  exact .bind_run (.lift agree_getPassport) fun p _ ⟨_⟩ => .ok rfl

theorem agree_tanMedia (version : Nat) (method : Option Method) :
    Agree L.Sessions Eq (tanMedia app version method) (tanMedia app' version method) := by
  unfold tanMedia
  split
  · refine .bind agree_getPassport fun p _ ⟨_⟩ => ?_
    refine .bind_eq (agree_ask _ (happ.medium _)) fun answer => ?_
    exact .pure rfl
  · exact .pure rfl

/-! ### Signatures -/

theorem agree_obtainPin :
    Agree L.Sessions (OrFail L.texts) (obtainPin app).run (obtainPin app').run := by
  refine .bind_run (.lift agree_getPassport) fun p _ ⟨hpin⟩ => ?_
  dsimp only
  generalize p.pin = known at hpin
  -- either both PINs are known, or both users are asked
  cases hpin with
  | some htexts => exact .ok htexts
  | none =>
    refine .bind_run (.lift (agree_ask _ happ.pin)) fun pin pin' hanswer => ?_
    have hkeep : Agree L.Sessions Eq (Session.modifyPassport ({ · with pin := some pin }))
        (Session.modifyPassport ({ · with pin := some pin' })) :=
      agree_modifyPassport fun p _ ⟨_⟩ => ⟨.some hanswer.texts⟩
    rw [hanswer.isEmpty_eq]
    split
    · exact .bind_run_eq (.throw _) fun _ => .bind_run_eq (.lift hkeep) fun _ => .ok hanswer.texts
    · exact .bind_run_eq (.lift hkeep) fun _ => .ok hanswer.texts

theorem agree_obtainTan (prompt : String) (flicker : Option String) :
    Agree L.Sessions (OrFail L.Answers) (obtainTan app prompt flicker).run
      (obtainTan app' prompt flicker).run := by
  refine .bind_run (.lift (agree_ask _ (happ.tan prompt flicker))) fun tan tan' hanswer => ?_
  rw [hanswer.isEmpty_eq]
  split
  · exact .bind_run_eq (.throw _) fun _ => .ok hanswer
  · exact .ok hanswer

theorem agree_oneStepTan {tan tan' : String} (htan : L.Answers tan tan') (codes : List String) :
    Agree L.Sessions (OrFail L.Answers) (oneStepTan app tan codes).run
      (oneStepTan app' tan' codes).run := by
  induction codes generalizing tan tan' with
  | nil => exact .ok htan
  | cons code codes ih =>
    refine .bind_run_eq (.lift (agree_lookUpRequirement code)) fun requirement => ?_
    -- both TANs are still empty, or neither is, and so the users are asked at the same segment
    rw [htan.isEmpty_eq]
    dsimp only
    split
    · exact .bind_run (agree_obtainTan happ _ _) fun tan tan' htan => ih htan
    · exact ih htan

theorem agree_twoStepTan :
    Agree L.Sessions (OrFail L.Answers) (twoStepTan app).run (twoStepTan app').run := by
  refine .bind_run_eq (agree_currentMethodInfo happ) fun method => ?_
  refine .bind_run (.lift agree_getPassport) fun p _ hp => ?_
  obtain ⟨-⟩ := hp
  refine .bind_run_eq (.lift (agree_modifyPassport fun p _ ⟨hpin⟩ => ⟨hpin⟩)) fun _ => ?_
  dsimp only
  split
  · exact .ok ⟨L.texts_empty, rfl⟩
  · exact agree_obtainTan happ _ _

/-- **Signatures.** Signatures look alike. -/
theorem agree_sign (message : List UInt8) :
    Agree L.Sessions (OrFail L.texts) (sign app message).run (sign app' message).run := by
  refine .bind_run (agree_obtainPin happ) fun pin pin' hpin => ?_
  refine .bind_run_eq (agree_currentMethod happ false) fun id => ?_
  dsimp only
  have hempty : L.Answers "" "" := ⟨L.texts_empty, rfl⟩
  split
  · exact .bind_run (agree_oneStepTan happ hempty _) fun tan tan' htan =>
      .ok (L.texts_signature hpin htan.texts)
  · exact .bind_run (agree_twoStepTan happ) fun tan tan' htan =>
      .ok (L.texts_signature hpin htan.texts)

/-! ### The opening of a dialog -/

theorem agree_requestAuthentication {c c' : Context} (hc : L.Contexts c c') :
    Agree L.Sessions (OrFail L.Contexts) (requestAuthentication app c).run
      (requestAuthentication app' c').run := by
  obtain @⟨status, hstatus⟩ := hc
  have hauth : ({ c with status } : Context).authenticates = c.authenticates := rfl
  rw [requestAuthentication, requestAuthentication, hauth]
  split
  · exact .ok ⟨hstatus⟩
  · refine .bind_run_eq (agree_currentMethodInfo happ) fun method => ?_
    dsimp only
    split
    · exact .ok ⟨hstatus⟩
    · refine .bind_run (.lift agree_getPassport) fun p _ hp => ?_
      obtain ⟨-⟩ := hp
      refine .bind_run_eq (.lift (agree_tanMedia happ _ _)) fun tanMedia => ?_
      exact .ok ⟨hstatus⟩

/-! ### The reaction to a reply -/

omit happ in
theorem agree_forgetRefusedPin {c c' : Context} (hc : L.Contexts c c') :
    Agree L.Sessions Eq (forgetRefusedPin c) (forgetRefusedPin c') := by
  have hanon : c'.anonymous = c.anonymous := by
    obtain ⟨-⟩ := hc
    rfl
  rw [forgetRefusedPin, forgetRefusedPin, hc.authFailure?_eq, hanon]
  split
  · refine .bind_eq (agree_modifyPassport fun p _ hp => ?_) fun _ => agree_call _
    obtain ⟨-⟩ := hp
    exact ⟨.none⟩
  · exact .pure rfl

theorem agree_checkAllowedMethods {c c' : Context} (hc : L.Contexts c c') :
    Agree L.Sessions (OrFail L.Contexts) (checkAllowedMethods app c).run
      (checkAllowedMethods app' c').run := by
  unfold checkAllowedMethods
  rw [hc.warningsWith_eq]
  obtain @⟨status, hstatus⟩ := hc
  dsimp only
  split
  · exact .ok ⟨hstatus⟩
  · refine .bind_run_eq (.lift (agree_modifyPassport fun p p' hp => passports_enroll hp _))
      fun _ => ?_
    refine .bind_run (.lift agree_getPassport) fun p _ hp => ?_
    obtain ⟨-⟩ := hp
    have htemplate : ({ c with status } : Context).template? = c.template? := rfl
    rw [htemplate]
    dsimp only
    split
    · exact .ok ⟨hstatus⟩
    · refine .bind_run_eq (agree_currentMethod happ true) fun id => ?_
      refine .ok ?_
      split
      · exact ⟨hstatus⟩
      · exact ⟨hstatus⟩

omit happ in
theorem agree_reportChangedIds {c c' : Context} (hc : L.Contexts c c') :
    Agree L.Sessions Eq (reportChangedIds c) (reportChangedIds c') := by
  have hids : changedIds? c' = changedIds? c := by
    rw [changedIds?, changedIds?, hc.warningsWith_eq]
  obtain ⟨-⟩ := hc
  rw [reportChangedIds, reportChangedIds, hids]
  dsimp only
  split
  · split
    · exact agree_call _
    · exact .pure rfl
  · exact .pure rfl

omit happ in
theorem agree_receiveChallenge {c c' : Context} (hc : L.Contexts c c') :
    Agree L.Sessions L.Contexts (receiveChallenge c) (receiveChallenge c') := by
  obtain @⟨status, hstatus⟩ := hc
  have hauth : ({ c with status } : Context).authenticates = c.authenticates := rfl
  rw [receiveChallenge, receiveChallenge, hauth]
  split
  · exact .pure ⟨hstatus⟩
  · refine .bind agree_getPassport fun p _ hp => ?_
    obtain ⟨-⟩ := hp
    dsimp only
    split
    · exact .pure ⟨hstatus⟩
    -- the match reads the step and the status together, so the context is taken apart
    · obtain ⟨anonymous, opening, queue, before, step, again⟩ := c
      dsimp only at hstatus ⊢
      cases step with
      | none => exact .pure ⟨hstatus⟩
      | some step =>
        cases hstatus with
        | none => exact .pure ⟨.none⟩
        | some hsame =>
          dsimp only
          rw [hsame.warningsWith_eq]
          split
          · exact .pure ⟨.some hsame⟩
          · cases step with
            | second => exact .pure ⟨.some hsame⟩
            | first =>
              dsimp only
              rw [hsame.find_responseQuery]
              split
              · exact .pure ⟨.some hsame⟩
              · refine .bind_eq (agree_modifyPassport fun p _ hp => ?_) fun _ =>
                  .pure ⟨.some hsame⟩
                obtain ⟨hpin⟩ := hp
                exact ⟨hpin⟩

/-- **Reactions.** Reactions to replies look alike. -/
theorem agree_react {c c' : Context} (hc : L.Contexts c c') :
    Agree L.Sessions (OrFail L.Contexts) (react app c).run (react app' c').run := by
  refine .bind_run_eq (.lift (agree_forgetRefusedPin hc)) fun _ => ?_
  refine .bind_run (agree_checkAllowedMethods happ hc) fun c c' hc => ?_
  refine .bind_run_eq (.lift (agree_reportChangedIds hc)) fun _ => ?_
  exact .lift (agree_receiveChallenge hc)

/-! ### The requests for a queue -/

omit happ in
theorem agree_hashMode (version : Nat) :
    Agree L.Sessions (OrFail Eq) (hashMode version).run (hashMode version).run := by
  refine .bind_run (.lift agree_getPassport) fun p _ hp => ?_
  obtain ⟨-⟩ := hp
  dsimp only
  split
  · exact .ok rfl
  · exact .throw _

theorem agree_obtainClass (m : Method) (t : Task) :
    Agree L.Sessions (OrFail Eq) (obtainClass app m t).run (obtainClass app' m t).run := by
  rw [obtainClass, obtainClass, happ.challengeClass]
  split
  · refine .bind_run_eq (.lift (agree_call _)) fun _ => ?_
    exact .outcome _
  · exact .ok rfl

theorem agree_orderHash (m : Method) (t : Task) :
    Agree L.Sessions (OrFail Eq) (orderHash app m t).run (orderHash app' m t).run := by
  refine .bind_run_eq (.lift (agree_call _)) fun _ => ?_
  rw [happ.encodeSegment]
  refine .bind_run_eq (.outcome _) fun segment => ?_
  refine .bind_run_eq (agree_hashMode m.version) fun mode => ?_
  exact .ok rfl

theorem agree_announcement (m : Method) (t : Task) :
    Agree L.Sessions (OrFail Eq) (announcement app m t).run (announcement app' m t).run := by
  refine .bind_run_eq (.lift (agree_tanMedia happ _ _)) fun tanMedia => ?_
  refine .bind_run_eq (agree_obtainClass happ m t) fun filled => ?_
  refine .bind_run_eq (agree_orderHash happ m t) fun hash => ?_
  exact .ok rfl

theorem agree_patchTask (m : Method) (id : TaskId) (s : Patching) :
    Agree L.Sessions (OrFail Eq) (patchTask app m id s).run (patchTask app' m id s).run := by
  have hadd (t : Task) : Agree L.Sessions (OrFail Eq) (addRequests app m id t s).run
      (addRequests app' m id t s).run := by
    rw [addRequests, addRequests]
    dsimp only
    split
    · refine .bind_run_eq (agree_announcement happ m t) fun request => ?_
      exact .ok rfl
    · refine .bind_run_eq (.lift (agree_tanMedia happ _ _)) fun tanMedia => ?_
      exact .ok rfl
  rw [patchTask, patchTask]
  split
  · exact .ok rfl
  · refine .bind_run_eq (.lift (agree_lookUpRequirement _)) fun requirement => ?_
    split
    · refine .bind_run_eq (hadd _) fun s => ?_
      exact .ok rfl
    · exact .ok rfl

theorem agree_patchTasks (m : Method) (ids : List TaskId) (s : Patching) :
    Agree L.Sessions Eq (patchTasks app m ids s) (patchTasks app' m ids s) := by
  induction ids generalizing s with
  | nil => exact .pure rfl
  | cons id ids ih =>
    refine .bind (agree_patchTask happ m id s) fun o _ ho => ?_
    obtain rfl := ho.eq
    split
    · exact ih _
    · exact .pure rfl

theorem agree_patchMessages (m : Method) (messages : List Message) (tasks : List Task) :
    Agree L.Sessions Eq (patchMessages app m messages tasks)
      (patchMessages app' m messages tasks) := by
  induction messages generalizing tasks with
  | nil => exact .pure rfl
  | cons message messages ih =>
    refine .bind_eq (agree_patchTasks happ m message _) fun o => ?_
    dsimp only
    split
    · refine .bind_eq (ih _) fun o => ?_
      exact .pure rfl
    · exact .pure rfl

theorem agree_patchMethod :
    Agree L.Sessions (OrFail Eq) (patchMethod app).run (patchMethod app').run := by
  refine .bind_run_eq (agree_currentMethod happ false) fun id => ?_
  split
  · exact .ok rfl
  · refine .bind_run (.lift agree_getPassport) fun p _ hp => ?_
    obtain ⟨-⟩ := hp
    dsimp only
    split
    · exact .ok rfl
    · exact .throw _

theorem agree_patch (q : MessageQueue) :
    Agree L.Sessions Eq (patch app q) (patch app' q) := by
  refine .bind (agree_patchMethod happ) fun o _ ho => ?_
  obtain rfl := ho.eq
  split
  · exact .pure rfl
  · exact agree_patchMessages happ _ _ _
  · exact .pure rfl

/-! ### Events -/

/-- **Events.** Handling an event looks alike. -/
theorem agree_handle (e : Event) {c c' : Context} (hc : L.Contexts c c') :
    Agree L.Sessions (Both Eq L.Contexts) (handle app e c) (handle app' e c') := by
  have hunless {action action' : Action Context}
      (h : Agree L.Sessions (OrFail L.Contexts) action.run action'.run) :
      Agree L.Sessions (Both Eq L.Contexts) (unlessFailing c action)
        (unlessFailing c' action') := by
    refine .bind h fun o o' ho => ?_
    cases ho with
    | ok h => exact .pure ⟨rfl, h⟩
    | error e => exact .pure ⟨rfl, hc⟩
  cases e with
  | messageCreated => exact hunless (agree_requestAuthentication happ hc)
  | messageSent => exact hunless (agree_react happ hc)
  | jobsCreated =>
    obtain @⟨status, hstatus⟩ := hc
    simp only [handle]
    split
    · exact .pure ⟨rfl, ⟨hstatus⟩⟩
    · refine .bind_eq (agree_patch happ _) fun o => ?_
      exact .pure ⟨rfl, ⟨hstatus⟩⟩

end

end Passport

end TanDialog
