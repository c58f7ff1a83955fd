import TanDialog.Passport.Event
import TanDialog.Proofs.Operations

/-!
# What a passport does as a matter of routine

Many operations of a passport come down to a few moves: a segment is looked up, a method comes into
use, the allowed methods are taken over, and the application is called about something else than the
PIN and the TAN. A relation between sessions that allows these moves (`Routine`) is therefore kept
by all such operations, and by the events before a message is sent (`Basics.messageCreated`,
`Routine.jobsCreated`), whatever the answers of the user are and whether or not the passport
refuses. In particular they spare the PIN and the challenge (`routine_spares`). Segments are looked
up only for the requests of a queue; a relation need not allow look-ups for everything else
(`Basics`).
-/

namespace TanDialog

/-- Whether a call is about the PIN or a TAN. -/
def Call.aboutSecrets : Call → Bool
  | .requestPin | .requestTan .. | .wrongPin => true
  | _ => false

/-- An effect takes every session to one that is related to it. -/
def Within (R : Session → Session → Prop) {α : Type} (x : Effect α) : Prop :=
  ∀ s, R s (perform x s).2

theorem Within.lift {R : Session → Session → Prop} {α : Type} {x : Effect α} (hx : Within R x) :
    Within R (liftM x : Action α).run := fun s => hx s

/-- A relation between sessions that allows all moves of the routine but look-ups. -/
structure Basics (R : Session → Session → Prop) : Prop where
  refl (s : Session) : R s s
  trans {s t u : Session} : R s t → R t u → R s u
  call (s : Session) {c : Call} (h : c.aboutSecrets = false) : R s { s with calls := c :: s.calls }
  takeMethod (s : Session) (id : String) (auto : Bool) :
    R s { s with passport := { s.passport with current := some id, autoSelected := auto } }
  enroll (s : Session) (methods : NameSet) : R s { s with passport := s.passport.enroll methods }

/-- A relation between sessions that allows the moves that are made as a matter of routine. -/
structure Routine (R : Session → Session → Prop) : Prop extends Basics R where
  lookUp (s : Session) (code : String) : R s { s with passport := s.passport.lookedUp code }

namespace Basics

variable {R : Session → Session → Prop} (h : Basics R) {α β : Type}

/-! ### Sequences of steps -/

include h in
theorem pure (a : α) : Within R (Pure.pure a) := fun s => h.refl s

include h in
theorem bind {x : Effect α} {f : α → Effect β} (hx : Within R x) (hf : ∀ a, Within R (f a)) :
    Within R (x >>= f) := by
  intro s
  rw [perform_bind]
  exact h.trans (hx s) (hf _ _)

include h in
/-- An action keeps to the relation if its parts do; it may end after the first one. -/
theorem bind_action {x : Action α} {f : α → Action β} (hx : Within R x.run)
    (hf : ∀ a, Within R (f a).run) : Within R (x >>= f).run := by
  intro s
  have hs : R s (exec x s).2 := hx s
  rw [perform_run, exec_bind]
  generalize exec x s = o at hs
  obtain ⟨_ | a, s'⟩ := o
  · -- what the first part has done before it failed stays done
    exact hs
  · exact h.trans hs (hf a s')

include h in
theorem throw (e : Error) : Within R (MonadExcept.throw e : Action α).run := fun s => h.refl s

include h in
theorem getPassport : Within R Session.getPassport := fun s => h.refl s

include h in
theorem ask (app : Application) {c : Call} (hc : c.aboutSecrets = false) :
    Within R (Session.ask app c) := fun s => h.call s hc

/-! ### The method in use -/

variable (app : Application)

include h in
theorem currentMethod (recheck : Bool) : Within R (Passport.currentMethod app recheck).run := by
  refine h.bind_action (.lift h.getPassport) fun p => ?_
  cases p.selection recheck with
  | keep id => exact h.pure _
  | automatic id =>
    exact h.bind_action (.lift fun s => h.takeMethod s id true) fun _ => h.pure _
  | choose options =>
    refine h.bind_action (.lift (h.ask app rfl)) fun answer => ?_
    split
    · exact h.bind_action (.lift fun s => h.takeMethod s _ false) fun _ => h.pure _
    · exact h.throw _

include h in
theorem currentMethodInfo : Within R (Passport.currentMethodInfo app).run :=
  h.bind_action (h.currentMethod app false) fun _ =>
    h.bind_action (.lift h.getPassport) fun _ => h.pure _

include h in
theorem isSupported : Within R (Passport.isSupported app).run := by
  refine h.bind_action (.lift h.getPassport) fun p => ?_
  split
  · exact h.pure _
  · split
    · refine h.bind_action (h.currentMethod app true) fun id => ?_
      exact h.bind_action (.lift h.getPassport) fun p => h.pure _
    · exact h.pure _

include h in
theorem tanMedia (version : Nat) (method : Option Method) :
    Within R (Passport.tanMedia app version method) := by
  unfold Passport.tanMedia
  split
  · refine h.bind h.getPassport fun p => ?_
    exact h.bind (h.ask app rfl) fun answer => h.pure _
  · exact h.pure _

/-! ### The events of an opening -/

include h in
theorem requestAuthentication (c : Context) :
    Within R (Passport.requestAuthentication app c).run := by
  rw [Passport.requestAuthentication]
  split
  · exact h.pure _
  · refine h.bind_action (h.currentMethodInfo app) fun method => ?_
    dsimp only
    split
    · exact h.pure _
    · refine h.bind_action (.lift h.getPassport) fun p => ?_
      exact h.bind_action (.lift (h.tanMedia app _ _)) fun tanMedia => h.pure _

include h in
theorem checkAllowedMethods (c : Context) :
    Within R (Passport.checkAllowedMethods app c).run := by
  unfold Passport.checkAllowedMethods
  dsimp only
  split
  · exact h.pure _
  · refine h.bind_action (.lift fun s => h.enroll s _) fun _ => ?_
    refine h.bind_action (.lift h.getPassport) fun p => ?_
    split
    · exact h.pure _
    · exact h.bind_action (h.currentMethod app true) fun id => h.pure _

include h in
theorem reportChangedIds (c : Context) : Within R (Passport.reportChangedIds c) := by
  unfold Passport.reportChangedIds
  split
  · split
    · exact fun s => h.call s rfl
    · exact h.pure _
  · exact h.pure _

/-! ### The requests for a queue -/

include h in
theorem orderHash (m : Method) (t : Task) : Within R (Passport.orderHash app m t).run := by
  refine h.bind_action (.lift fun s => h.call s rfl) fun _ => ?_
  -- the encoder of the application does not touch the session
  refine h.bind_action (fun s => h.refl s) fun segment => ?_
  refine h.bind_action (h.bind_action (.lift h.getPassport) fun p => ?_) fun mode => h.pure _
  split
  · exact h.pure _
  · exact h.throw _

include h in
theorem announcement (m : Method) (t : Task) : Within R (Passport.announcement app m t).run := by
  refine h.bind_action (.lift (h.tanMedia app _ _)) fun tanMedia => ?_
  refine h.bind_action ?_ fun filled => h.bind_action (h.orderHash app m t) fun hash => h.pure _
  rw [Passport.obtainClass]
  split
  · exact h.bind_action (.lift fun s => h.call s rfl) fun _ s => h.refl s
  · exact h.pure _

include h in
theorem addRequests (m : Method) (id : TaskId) (t : Task) (a : Passport.Patching) :
    Within R (Passport.addRequests app m id t a).run := by
  rw [Passport.addRequests]
  dsimp only
  split
  · exact h.bind_action (h.announcement app m t) fun request => h.pure _
  · exact h.bind_action (.lift (h.tanMedia app _ _)) fun tanMedia => h.pure _

include h in
theorem patchMethod : Within R (Passport.patchMethod app).run := by
  refine h.bind_action (h.currentMethod app false) fun id => ?_
  split
  · exact h.pure _
  · refine h.bind_action (.lift h.getPassport) fun p => ?_
    split
    · exact h.pure _
    · exact h.throw _

/-! ### The event before an opening is encoded -/

include h in
theorem unlessFailing (c : Context) {action : Action Context} (haction : Within R action.run) :
    Within R (Passport.unlessFailing c action) := by
  refine h.bind haction fun o => ?_
  split <;> exact h.pure _

include h in
theorem messageCreated (c : Context) : Within R (Passport.handle app .messageCreated c) :=
  h.unlessFailing c (h.requestAuthentication app c)

end Basics

namespace Routine

variable {R : Session → Session → Prop} (h : Routine R) (app : Application)

/-! ### Patching a queue -/

include h in
theorem lookUpRequirement (code : String) : Within R (Passport.lookUpRequirement code) := by
  intro s
  rw [Passport.perform_lookUpRequirement]
  exact h.lookUp s code

include h in
theorem patchTask (m : Method) (id : TaskId) (s : Passport.Patching) :
    Within R (Passport.patchTask app m id s).run := by
  rw [Passport.patchTask]
  split
  · exact h.pure _
  · refine h.bind_action (.lift (h.lookUpRequirement _)) fun requirement => ?_
    split
    · exact h.bind_action (h.addRequests app m id _ s) fun s => h.pure _
    · exact h.pure _

include h in
theorem patchTasks (m : Method) (ids : List TaskId) (s : Passport.Patching) :
    Within R (Passport.patchTasks app m ids s) := by
  induction ids generalizing s with
  | nil => exact h.pure _
  | cons id ids ih =>
    refine h.bind (h.patchTask app m id s) fun o => ?_
    split
    · exact ih _
    · exact h.pure _

include h in
theorem patchMessages (m : Method) (messages : List Message) (tasks : List Task) :
    Within R (Passport.patchMessages app m messages tasks) := by
  induction messages generalizing tasks with
  | nil => exact h.pure _
  | cons message messages ih =>
    refine h.bind (h.patchTasks app m message _) fun o => ?_
    dsimp only
    split
    · exact h.bind (ih _) fun o => h.pure _
    · exact h.pure _

include h in
theorem patch (q : MessageQueue) : Within R (Passport.patch app q) := by
  refine h.bind (h.patchMethod app) fun o => ?_
  split
  · exact h.pure _
  · exact h.patchMessages app _ _ _
  · exact h.pure _

include h in
theorem jobsCreated (c : Context) : Within R (Passport.handle app .jobsCreated c) := by
  simp only [Passport.handle]
  split
  · exact h.pure _
  · exact h.bind (h.patch app _) fun o => h.pure _

end Routine

/-! ### Secrets -/

/-- Between two sessions the PIN and the challenge stay as they are, and no call is about them. -/
structure Session.Spares (s s' : Session) : Prop where
  pin : s'.passport.pin = s.passport.pin
  challenge : s'.passport.challenge = s.passport.challenge
  calls : s'.calls.filter Call.aboutSecrets = s.calls.filter Call.aboutSecrets

/-- The routine spares the PIN and the challenge. -/
theorem routine_spares : Routine Session.Spares where
  refl _ := ⟨rfl, rfl, rfl⟩
  trans h h' := ⟨h'.pin.trans h.pin, h'.challenge.trans h.challenge, h'.calls.trans h.calls⟩
  call _ {_} hc := ⟨rfl, rfl, List.filter_cons_of_neg (by simp [hc])⟩
  lookUp s code := by
    rw [Passport.lookedUp_eq]
    exact ⟨rfl, rfl, rfl⟩
  takeMethod _ _ _ := ⟨rfl, rfl, rfl⟩
  enroll s methods := by
    rw [Passport.enroll]
    split <;> exact ⟨rfl, rfl, rfl⟩

end TanDialog
