import TanDialog.Proofs.Reaction.Outcome
import TanDialog.Proofs.Signature.Failure

/-!
# Look-ups

To verify a method, the passport once reports that the segment which identifies the user needs a
TAN, though the bank parameters do not declare that segment. It knows by its verification mode that
this is still to come. The lists of this module hold all look-ups that the operations of a passport
make, with their answers, and `Session.Balances` keeps the account: the verifications among the
look-ups of an operation and the mode that is left make up the mode that there was. So nothing but a
verification ends the mode, and each verification ends it.

The account is made up along the sequence of the steps (`balances_bind`). A step that makes no
look-ups keeps the mode (`basics_balances`).
-/

namespace TanDialog

/-- A look-up that has been made. -/
structure LookUp where
  /-- The bank parameters in force. -/
  bpd : Option PropertySet
  code : String
  answer : Requirement

/-- Whether the segment that identifies the user is reported to need a TAN, though it is not
declared. -/
def LookUp.isVerification (x : LookUp) : Bool :=
  x.code == identificationCode && x.answer == .required &&
    (x.bpd.bind (BankParameters.declaredRequirement? · x.code)).isNone

/-- The look-up of a segment with a passport. -/
def Passport.lookUp (p : Passport) (code : String) : LookUp := ⟨p.bpd, code, p.requirement code⟩

/-- The look-ups between two sessions account for the verification mode. -/
def Session.Balances (s : Session) (xs : List LookUp) (s' : Session) : Prop :=
  xs.countP LookUp.isVerification + s'.passport.verifyTanMode.toNat =
    s.passport.verifyTanMode.toNat

/-- What is listed for the session after an action, unless the action fails. -/
def following {α β : Type} (x : Action α) (list : α → Session → List β) (s : Session) : List β :=
  match exec x s with
  | (.ok a, s) => list a s
  | (.error _, _) => []

/-! ### Accounts -/

namespace Session.Balances

variable {s s' s'' : Session} {xs ys : List LookUp}

theorem of_verifyTanMode_eq (h : s'.passport.verifyTanMode = s.passport.verifyTanMode) :
    s.Balances [] s' := by
  rw [Balances, h, List.countP_nil, Nat.zero_add]

theorem refl (s : Session) : s.Balances [] s := of_verifyTanMode_eq rfl

theorem append (h : s.Balances xs s') (h' : s'.Balances ys s'') : s.Balances (xs ++ ys) s'' := by
  rw [Balances] at h h' ⊢
  rw [List.countP_append]
  omega

end Session.Balances

/-- Whatever makes no look-ups and is a matter of routine keeps the mode. -/
theorem basics_balances : Basics (Session.Balances · [] ·) where
  refl := .refl
  trans h h' := h.append h'
  call _ {_} _ := .of_verifyTanMode_eq rfl
  takeMethod _ _ _ := .of_verifyTanMode_eq rfl
  enroll _ _ := .of_verifyTanMode_eq (by rw [Passport.enroll_eq])

/-- The look-ups of a sequence are those of its first part and of what follows it. -/
theorem balances_bind {α β : Type} {x : Action α} {f : α → Action β} {s : Session}
    {xs : List LookUp} {ys : α → Session → List LookUp} (hx : s.Balances xs (exec x s).2)
    (hf : ∀ a s', exec x s = (.ok a, s') → s'.Balances (ys a s') (exec (f a) s').2) :
    s.Balances (xs ++ following x ys s) (exec (x >>= f) s).2 := by
  rw [exec_bind, following]
  rcases h : exec x s with ⟨e | a, s'⟩
  · rw [h] at hx
    rwa [List.append_nil]
  · rw [h] at hx
    exact hx.append (hf a s' h)

/-- A first part without look-ups. -/
theorem balances_bind_nil {α β : Type} {x : Action α} {f : α → Action β} {s : Session}
    {ys : α → Session → List LookUp} (hx : s.Balances [] (exec x s).2)
    (hf : ∀ a s', exec x s = (.ok a, s') → s'.Balances (ys a s') (exec (f a) s').2) :
    s.Balances (following x ys s) (exec (x >>= f) s).2 := balances_bind hx hf

namespace Passport

/-! ### A single look-up -/

/-- A look-up is a verification exactly if it ends the mode. -/
theorem isVerification_lookUp (p : Passport) (code : String) :
    (p.lookUp code).isVerification = p.bpd.any (p.verifies · code) := by
  rw [lookUp, LookUp.isVerification]
  cases hbpd : p.bpd with
  | none => simp [requirement, hbpd]
  | some bpd =>
    cases hdeclared : BankParameters.declaredRequirement? bpd code with
    | some r => simp [verifies, hdeclared]
    | none =>
      cases hknows : BankParameters.knowsTransaction bpd code with
      | true => simp [requirement, hbpd, hdeclared, hknows, verifies]
      | false =>
        have hrequirement : p.requirement code =
            if p.verifies bpd code then .required else .administrative := by
          simp [requirement, hbpd, hdeclared, hknows]
        have hverifies : p.verifies bpd code =
            (p.verifyTanMode && code == identificationCode) := by
          simp [verifies, hdeclared, hknows]
        simp only [Option.bind_some, hdeclared, Option.isNone_none, Bool.and_true, Option.any_some,
          hrequirement]
        cases hv : p.verifies bpd code with
        | false => exact Bool.and_false _
        | true =>
          rw [hv, eq_comm, Bool.and_eq_true] at hverifies
          rw [hverifies.2]
          rfl

/-- A look-up accounts for the mode that it ends. -/
theorem balances_lookedUp {s s' : Session} {code : String}
    (h : s'.passport = s.passport.lookedUp code) : s.Balances [s.passport.lookUp code] s' := by
  rw [Session.Balances, List.countP_singleton, isVerification_lookUp, h, lookedUp]
  split
  case isTrue hverifies =>
    obtain ⟨bpd, -, hmode⟩ := Option.any_eq_true _ _ |>.mp hverifies
    simp only [verifies, Bool.and_eq_true] at hmode
    rw [hmode.1.2]
    rfl
  case isFalse => exact Nat.zero_add _

/-! ### Signatures -/

variable (app : Application)

/-- The look-ups for the segments of a message under the one-step method. They end where the user
gives no TAN. -/
def oneStepLookUps : List String → String → Session → List LookUp
  | [], _, _ => []
  | code :: codes, tan, s =>
    s.passport.lookUp code :: following (oneStepTan app tan [code]) (oneStepLookUps codes) s

/-- The look-ups for the signature of a message. -/
def signLookUps (message : List UInt8) : Session → List LookUp :=
  following (obtainPin app) fun _ =>
    following (currentMethod app false) fun id s =>
      if id = Method.oneStepId then oneStepLookUps app (Segment.codes message) "" s else []

theorem oneStepTan_cons (tan code : String) (codes : List String) :
    oneStepTan app tan (code :: codes) =
      oneStepTan app tan [code] >>= fun tan => oneStepTan app tan codes := by
  simp only [oneStepTan, bind_assoc]
  congr 1
  funext requirement
  split <;> simp only [bind_assoc, pure_bind]

theorem passport_exec_oneStepTan_singleton (tan code : String) (s : Session) :
    (exec (oneStepTan app tan [code]) s).2.passport = s.passport.lookedUp code := by
  rw [oneStepTan, exec_bind, exec_lift, perform_lookUpRequirement]
  dsimp only
  split
  · rw [exec_bind, exec_obtainTan]
    dsimp only
    cases (app.answer (.requestTan oneStepPrompt none :: s.calls)).isEmpty <;> rfl
  · rfl

theorem balances_oneStepTan (codes : List String) (tan : String) (s : Session) :
    s.Balances (oneStepLookUps app codes tan s) (exec (oneStepTan app tan codes) s).2 := by
  induction codes generalizing tan s with
  | nil => exact .refl s
  | cons code codes ih =>
    rw [oneStepTan_cons]
    exact balances_bind
      (balances_lookedUp (passport_exec_oneStepTan_singleton app tan code s))
      fun tan s' _ => ih tan s'

theorem balances_obtainPin (s : Session) : s.Balances [] (exec (obtainPin app) s).2 := by
  by_cases h : HasPin app s
  · rw [exec_obtainPin h]
    exact .of_verifyTanMode_eq rfl
  · rw [exec_obtainPin_of_not_hasPin h]
    exact .of_verifyTanMode_eq rfl

theorem balances_twoStepTan {id : String} {s : Session} (hid : s.passport.current = some id) :
    s.Balances [] (exec (twoStepTan app) s).2 := by
  rw [exec_twoStepTan hid]
  dsimp only
  split <;> exact .of_verifyTanMode_eq rfl

/-- **Signatures.** The look-ups for a signature account for the mode. -/
theorem balances_sign (message : List UInt8) (s : Session) :
    s.Balances (signLookUps app message s) (exec (sign app message) s).2 := by
  refine balances_bind_nil (balances_obtainPin app s) fun pin s₁ _ => ?_
  refine balances_bind_nil (basics_balances.currentMethod app false s₁) fun id s₂ hid => ?_
  obtain ⟨auto, hcurrent⟩ := exec_currentMethod_ok hid
  dsimp only
  split
  · rw [exec_bind_pure]
    exact balances_oneStepTan app _ "" s₂
  · rw [exec_bind_pure]
    exact balances_twoStepTan app (congrArg current hcurrent)

/-! ### Patching a queue -/

/-- The look-up for an occurrence of a task, which has to be without TAN request. -/
def taskLookUps (id : TaskId) (a : Patching) (s : Session) : List LookUp :=
  match a.tasks[id]?.filter (!·.tanApplied) with
  | none => []
  | some t => [s.passport.lookUp t.code]

/-- The look-ups for the tasks of a message. They end with the first task that fails. -/
def tasksLookUps (m : Method) : List TaskId → Patching → Session → List LookUp
  | [], _, _ => []
  | id :: ids, a, s =>
    taskLookUps id a s ++ following (patchTask app m id a) (tasksLookUps m ids) s

/-- The look-ups for messages. They end with the first message that fails. -/
def messagesLookUps (m : Method) : List Message → List Task → Session → List LookUp
  | [], _, _ => []
  | message :: messages, tasks, s =>
    tasksLookUps app m message { tasks } s ++
      match perform (patchTasks app m message { tasks }) s with
      | ((.ok (), a), s) => messagesLookUps m messages a.tasks s
      | ((.error _, _), _) => []

/-- The look-ups for a queue. -/
def patchLookUps (q : MessageQueue) : Session → List LookUp :=
  following (patchMethod app) fun
    | none => fun _ => []
    | some m => messagesLookUps app m q.messages q.tasks

theorem balances_patchTask (m : Method) (id : TaskId) (a : Patching) (s : Session) :
    s.Balances (taskLookUps id a s) (exec (patchTask app m id a) s).2 := by
  rw [patchTask, taskLookUps]
  cases a.tasks[id]?.filter (!·.tanApplied) with
  | none => exact .refl s
  | some t =>
    dsimp only
    rw [exec_bind, exec_lift, perform_lookUpRequirement]
    have hlookedUp : s.Balances [s.passport.lookUp t.code]
        { s with passport := s.passport.lookedUp t.code } := balances_lookedUp rfl
    dsimp only
    split
    · rw [exec_bind_pure]
      exact hlookedUp.append (basics_balances.addRequests app m id t a _)
    · exact hlookedUp

theorem balances_patchTasks (m : Method) (ids : List TaskId) (a : Patching) (s : Session) :
    s.Balances (tasksLookUps app m ids a s) (perform (patchTasks app m ids a) s).2 := by
  induction ids generalizing a s with
  | nil => exact .refl s
  | cons id ids ih =>
    have htask := balances_patchTask app m id a s
    rw [patchTasks, perform_bind, perform_run, tasksLookUps, following]
    rcases h : exec (patchTask app m id a) s with ⟨e | b, s'⟩ <;> rw [h] at htask
    · rwa [List.append_nil]
    · exact htask.append (ih b s')

theorem balances_patchMessages (m : Method) (messages : List Message) (tasks : List Task)
    (s : Session) :
    s.Balances (messagesLookUps app m messages tasks s)
      (perform (patchMessages app m messages tasks) s).2 := by
  induction messages generalizing tasks s with
  | nil => exact .refl s
  | cons message messages ih =>
    have htasks := balances_patchTasks app m message { tasks } s
    rw [patchMessages, perform_bind, messagesLookUps]
    rcases h : perform (patchTasks app m message { tasks }) s with ⟨⟨e | ⟨⟩, b⟩, s'⟩ <;>
      rw [h] at htasks
    · rwa [List.append_nil]
    · exact htasks.append (ih b.tasks s')

/-- **Patching.** The look-ups for a queue account for the mode. -/
theorem balances_patch (q : MessageQueue) (s : Session) :
    s.Balances (patchLookUps app q s) (perform (patch app q) s).2 := by
  have hmethod : s.Balances [] (exec (patchMethod app) s).2 := basics_balances.patchMethod app s
  rw [patch, perform_bind, perform_run, patchLookUps, following]
  rcases h : exec (patchMethod app) s with ⟨e | _ | m, s'⟩ <;> rw [h] at hmethod
  · exact hmethod
  · exact hmethod
  · exact hmethod.append (balances_patchMessages app m q.messages q.tasks s')

/-! ### Events -/

/-- The look-ups when an event is handled: only queued tasks are looked up. -/
def eventLookUps (e : Event) (c : Context) (s : Session) : List LookUp :=
  match e with
  | .jobsCreated =>
    match c.queue with
    | none => []
    | some q => patchLookUps app q s
  | _ => []

theorem balances_react (c : Context) (s : Session) :
    s.Balances [] (exec (react app c) s).2 := by
  obtain ⟨pin, current, auto, challenge, hpassport⟩ := passport_exec_react app c s
  refine .of_verifyTanMode_eq ?_
  rw [hpassport, enrolledFrom, enroll_eq]

/-- **Events.** The look-ups for an event account for the mode. -/
theorem balances_handle (e : Event) (c : Context) (s : Session) :
    s.Balances (eventLookUps app e c s) (perform (handle app e c) s).2 := by
  cases e with
  | messageCreated => exact basics_balances.messageCreated app c s
  | messageSent => exact basics_balances.unlessFailing c (balances_react app c) s
  | jobsCreated =>
    unfold handle eventLookUps
    dsimp only
    cases c.queue with
    | none => exact .refl s
    | some q => exact balances_patch app q s

end Passport

end TanDialog
