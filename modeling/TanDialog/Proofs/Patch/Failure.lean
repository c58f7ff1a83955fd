import TanDialog.Passport.Event
import TanDialog.Proofs.Patch.VariantOne

/-!
# Patching that fails

Patching works on the queue itself, task by task, and stops at the first task that is refused its
request. What has been done until then stays done. So the queue is as it was if there is no method
to patch for, or if the very first task that needs a TAN is refused (`FailsAtOnce`), and in no other
case (`queue_kept_iff_of_failed_patch`): the requests for an earlier task remain in the queue.

Up to the first task found, patching leaves the tasks and messages of any queue alone, so that it
agrees with the scan even where messages name tasks that are not there. From then on it is enough
to know that tasks are only added.
-/

namespace TanDialog.Passport

open Scan

variable {app : Application} {m : Method} {tasks : List Task}

/-- Why a task is refused its requests, if it is: under variant two nothing is needed for them. -/
def refusal? (app : Application) (m : Method) (bpd : Option PropertySet) (t : Task) :
    Option Error :=
  match m.variant, orderContent app m bpd t with
  | .one, .error e => some e
  | _, _ => none

/-- What comes of a task that needs requests: it is refused them, or there are more tasks than
before. -/
def RefusesOrAdds (refused : Option Error) (tasks : List Task) (o : Except Error Patching) : Prop :=
  (∃ e, refused = some e ∧ o = .error e) ∨
    refused = none ∧ ∃ b, o = .ok b ∧ tasks.length < b.tasks.length

/-! ### Tasks are only added -/

theorem exec_addRequests (app : Application) (m : Method) (id : TaskId) (t : Task) (a : Patching)
    (s : Session) :
    RefusesOrAdds (refusal? app m s.passport.bpd t) a.tasks
      (exec (addRequests app m id t a) s).1 := by
  cases hv : m.variant with
  | one =>
    rw [exec_addRequests_one app hv, refusal?, hv]
    cases orderContent app m s.passport.bpd t with
    | error e => exact .inl ⟨e, rfl, rfl⟩
    | ok content => exact .inr ⟨rfl, _, rfl, by simp⟩
  | two =>
    rw [refusal?, hv]
    simp only [addRequests, hv, exec_bind, exec_lift, perform_tanMedia, exec_pure]
    exact .inr ⟨rfl, _, rfl, by simp⟩

variable (app m) in
/-- A task that has no request yet and needs a TAN gets its requests, unless it is refused them. -/
theorem exec_patchTask_of_required {id : TaskId} {t : Task} {a : Patching} {s : Session}
    (ht : a.tasks[id]?.filter (!·.tanApplied) = some t)
    (hr : s.passport.requirement t.code = .required) :
    RefusesOrAdds (refusal? app m s.passport.bpd t) a.tasks (exec (patchTask app m id a) s).1 := by
  have hadded := exec_addRequests app m id t a { s with passport := s.passport.lookedUp t.code }
  have hbpd : (s.passport.lookedUp t.code).bpd = s.passport.bpd := by
    rw [lookedUp_eq]
  rw [hbpd] at hadded
  simp only [patchTask, ht, exec_bind, exec_lift, perform_lookUpRequirement, hr, if_true]
  rcases hrun : exec (addRequests app m id t a)
    { s with passport := s.passport.lookedUp t.code } with ⟨o, u⟩
  rw [hrun] at hadded
  obtain ⟨e, he, rfl⟩ | ⟨hnone, b, rfl, hlength⟩ := hadded
  · exact .inl ⟨e, he, rfl⟩
  · exact .inr ⟨hnone, _, rfl, by rwa [List.length_modify]⟩

theorem length_tasks_of_exec_patchTask {id : TaskId} {a b : Patching} {s s' : Session}
    (h : exec (patchTask app m id a) s = (.ok b, s')) : a.tasks.length ≤ b.tasks.length := by
  cases ht : a.tasks[id]?.filter (!·.tanApplied) with
  | none =>
    simp only [patchTask, ht, exec_pure] at h
    obtain rfl := Except.ok.inj (Prod.mk.inj h).1
    exact Nat.le_refl _
  | some t =>
    by_cases hr : s.passport.requirement t.code = .required
    · have hpatched := exec_patchTask_of_required app m ht hr
      rw [h] at hpatched
      obtain ⟨e, -, herror⟩ | ⟨-, c, hok, hlength⟩ := hpatched
      · cases herror
      · obtain rfl := Except.ok.inj hok
        exact Nat.le_of_lt hlength
    · simp only [patchTask, ht, exec_bind, exec_lift, perform_lookUpRequirement, hr, if_false,
        exec_pure] at h
      obtain rfl := Except.ok.inj (Prod.mk.inj h).1
      exact Nat.le_refl _

theorem length_tasks_patchTasks (app : Application) (m : Method) (ids : List TaskId) (a : Patching)
    (s : Session) : a.tasks.length ≤ (perform (patchTasks app m ids a) s).1.2.tasks.length := by
  induction ids generalizing a s with
  | nil => exact Nat.le_refl _
  | cons id ids ih =>
    simp only [patchTasks, perform_bind, perform_run]
    rcases hstep : exec (patchTask app m id a) s with ⟨e | b, t⟩
    · exact Nat.le_refl _
    · exact Nat.le_trans (length_tasks_of_exec_patchTask hstep) (ih b t)

theorem length_tasks_patchMessages (app : Application) (m : Method) (messages : List Message)
    (tasks : List Task) (s : Session) :
    tasks.length ≤ (perform (patchMessages app m messages tasks) s).1.2.tasks.length := by
  induction messages generalizing tasks s with
  | nil => exact Nat.le_refl _
  | cons message messages ih =>
    have hfirst := length_tasks_patchTasks app m message { tasks } s
    simp only [patchMessages, perform_bind]
    rcases hstep : perform (patchTasks app m message { tasks }) s with ⟨⟨e | _, b⟩, t⟩
    · rw [hstep] at hfirst
      exact hfirst
    · rw [hstep] at hfirst
      exact Nat.le_trans hfirst (ih b.tasks t)

/-! ### Up to the first task found -/

/-- A scan that has found a task keeps it as the first one. -/
theorem head?_found_visitAll {scan : Scan} {x : TaskId × Task} (h : scan.found.head? = some x)
    (tasks : List Task) (ids : List TaskId) :
    (scan.visitAll tasks ids).found.head? = some x := by
  induction ids generalizing scan with
  | nil => exact h
  | cons id ids ih =>
    refine ih ?_
    rw [visit]
    split
    · exact h
    · rw [look]
      split
      · rw [List.head?_append, h]
        rfl
      · exact h

/-- The first visit of a scan that has found nothing yet, next to what patching does. -/
theorem exec_patchTask_of_fresh (app : Application) (m : Method) (tasks : List Task) (id : TaskId)
    (a : Additions) (s : Session) :
    match (visit tasks ⟨s.passport, []⟩ id).found.head? with
    | none => exec (patchTask app m id ⟨tasks, a⟩) s =
        (.ok ⟨tasks, a⟩, { s with passport := (visit tasks ⟨s.passport, []⟩ id).passport })
    | some x => RefusesOrAdds (refusal? app m s.passport.bpd x.2) tasks
        (exec (patchTask app m id ⟨tasks, a⟩) s).1 := by
  have hpending : pending? tasks ⟨s.passport, []⟩ id = tasks[id]?.filter (!·.tanApplied) := by
    simp [pending?]
  rw [visit, hpending]
  cases ht : tasks[id]?.filter (!·.tanApplied) with
  | none =>
    simp only [patchTask, ht]
    rfl
  | some t =>
    by_cases hr : s.passport.requirement t.code = .required
    · simp only [look, hr, if_true]
      exact exec_patchTask_of_required app m ht hr
    · simp only [look, hr, if_false, patchTask, ht, exec_bind, exec_lift,
        perform_lookUpRequirement]
      rfl

theorem bpd_visitAll (tasks : List Task) (scan : Scan) (ids : List TaskId) :
    (scan.visitAll tasks ids).passport.bpd = scan.passport.bpd := by
  obtain ⟨verify, hp⟩ := GoesOnFrom.visitAll tasks ⟨scan.passport.verifyTanMode, rfl⟩ ids
  rw [hp]

/-- A scan without a first task is one that goes on from its passport. -/
theorem eq_of_head?_found {scan : Scan} (h : scan.found.head? = none) :
    scan = ⟨scan.passport, []⟩ := by
  rw [← List.head?_eq_none_iff.mp h]

variable (app m tasks) in
/-- Nothing is done to a message while no task is found. -/
theorem perform_patchTasks_of_none (a : Additions) {ids : List TaskId} {s : Session}
    (h : (visitAll tasks ⟨s.passport, []⟩ ids).found.head? = none) :
    perform (patchTasks app m ids ⟨tasks, a⟩) s =
      ((.ok (), ⟨tasks, a⟩),
        { s with passport := (visitAll tasks ⟨s.passport, []⟩ ids).passport }) := by
  induction ids generalizing s with
  | nil => rfl
  | cons id ids ih =>
    have hstep := exec_patchTask_of_fresh app m tasks id a s
    rw [visitAll_cons] at h ⊢
    cases hfirst : (visit tasks ⟨s.passport, []⟩ id).found.head? with
    | some x =>
      rw [head?_found_visitAll hfirst tasks ids] at h
      cases h
    | none =>
      rw [eq_of_head?_found hfirst] at h ⊢
      simp only [hfirst] at hstep
      simp only [patchTasks, perform_bind, perform_run, hstep]
      exact ih h

variable (app m tasks) in
/-- The first task of a message that is found decides whether anything is done to it. -/
theorem perform_patchTasks_of_some (a : Additions) {ids : List TaskId} {s : Session}
    {x : TaskId × Task} (h : (visitAll tasks ⟨s.passport, []⟩ ids).found.head? = some x) :
    (∃ e, refusal? app m s.passport.bpd x.2 = some e ∧
        (perform (patchTasks app m ids ⟨tasks, a⟩) s).1 = (.error e, ⟨tasks, a⟩)) ∨
      refusal? app m s.passport.bpd x.2 = none ∧
        tasks.length < (perform (patchTasks app m ids ⟨tasks, a⟩) s).1.2.tasks.length := by
  induction ids generalizing s with
  | nil => cases h
  | cons id ids ih =>
    have hstep := exec_patchTask_of_fresh app m tasks id a s
    rw [visitAll_cons] at h
    simp only [patchTasks, perform_bind, perform_run]
    cases hfirst : (visit tasks ⟨s.passport, []⟩ id).found.head? with
    | none =>
      rw [eq_of_head?_found hfirst] at h
      simp only [hfirst] at hstep
      have hrest := ih (s := { s with passport := (visit tasks ⟨s.passport, []⟩ id).passport }) h
      have hbpd : (visit tasks ⟨s.passport, []⟩ id).passport.bpd = s.passport.bpd :=
        bpd_visitAll tasks _ [id]
      simp only [hbpd] at hrest
      simp only [hstep]
      exact hrest
    | some y =>
      obtain rfl := Option.some.inj ((head?_found_visitAll hfirst tasks ids).symm.trans h)
      simp only [hfirst] at hstep
      rcases hrun : exec (patchTask app m id ⟨tasks, a⟩) s with ⟨o, u⟩
      rw [hrun] at hstep
      obtain ⟨e, he, rfl⟩ | ⟨hnone, b, rfl, hlength⟩ := hstep
      · exact .inl ⟨e, he, rfl⟩
      · exact .inr ⟨hnone, Nat.lt_of_lt_of_le hlength (length_tasks_patchTasks app m ids b u)⟩

/-- A message without additions stays as it is. -/
theorem around_nothing (message : Message) : ({} : Additions).around message = [message] := by
  simp [Additions.around]

variable (app m tasks) in
/-- Nothing is done to messages while no task is found. -/
theorem perform_patchMessages_of_none {messages : List Message} {s : Session}
    (h : (visitAll tasks ⟨s.passport, []⟩ messages.flatten).found.head? = none) :
    perform (patchMessages app m messages tasks) s =
      ((.ok (), ⟨tasks, messages⟩),
        { s with passport := (visitAll tasks ⟨s.passport, []⟩ messages.flatten).passport }) := by
  induction messages generalizing s with
  | nil => rfl
  | cons message messages ih =>
    rw [List.flatten_cons, visitAll_append] at h ⊢
    cases hfirst : (visitAll tasks ⟨s.passport, []⟩ message).found.head? with
    | some x =>
      rw [head?_found_visitAll hfirst tasks] at h
      cases h
    | none =>
      rw [eq_of_head?_found hfirst] at h ⊢
      have hrest :=
        ih (s := { s with passport := (visitAll tasks ⟨s.passport, []⟩ message).passport }) h
      simp only [patchMessages, perform_bind, perform_patchTasks_of_none app m tasks {} hfirst,
        hrest, perform_pure, around_nothing]
      rfl

variable (app m tasks) in
/-- The first task of all messages that is found decides whether anything is done to them. -/
theorem perform_patchMessages_of_some {messages : List Message} {s : Session} {x : TaskId × Task}
    (h : (visitAll tasks ⟨s.passport, []⟩ messages.flatten).found.head? = some x) :
    (∃ e, refusal? app m s.passport.bpd x.2 = some e ∧
        (perform (patchMessages app m messages tasks) s).1 = (.error e, ⟨tasks, messages⟩)) ∨
      refusal? app m s.passport.bpd x.2 = none ∧
        tasks.length < (perform (patchMessages app m messages tasks) s).1.2.tasks.length := by
  induction messages generalizing s with
  | nil => cases h
  | cons message messages ih =>
    rw [List.flatten_cons, visitAll_append] at h
    simp only [patchMessages, perform_bind]
    cases hfirst : (visitAll tasks ⟨s.passport, []⟩ message).found.head? with
    | none =>
      rw [eq_of_head?_found hfirst] at h
      have hrest := ih
        (s := { s with passport := (visitAll tasks ⟨s.passport, []⟩ message).passport }) h
      simp only [bpd_visitAll] at hrest
      simp only [perform_patchTasks_of_none app m tasks {} hfirst, perform_bind, around_nothing]
      obtain ⟨e, he, hrun⟩ | ⟨hnone, hlength⟩ := hrest
      · refine .inl ⟨e, he, ?_⟩
        simp only [hrun]
        rfl
      · exact .inr ⟨hnone, hlength⟩
    | some y =>
      obtain rfl := Option.some.inj ((head?_found_visitAll hfirst tasks _).symm.trans h)
      have hstep := perform_patchTasks_of_some app m tasks {} hfirst
      rcases hrun : perform (patchTasks app m message { tasks }) s with ⟨⟨o, b⟩, t⟩
      rw [hrun] at hstep
      obtain ⟨e, he, heq⟩ | ⟨hnone, hlength⟩ := hstep
      · obtain ⟨rfl, rfl⟩ := Prod.mk.inj heq
        refine .inl ⟨e, he, ?_⟩
        simp only [around_nothing]
        rfl
      · refine .inr ⟨hnone, ?_⟩
        cases o with
        | error e => exact hlength
        | ok =>
          exact Nat.lt_of_lt_of_le hlength (length_tasks_patchMessages app m messages b.tasks t)

/-! ### Queues -/

/-- Patching a queue fails before anything has been done to it. -/
inductive FailsAtOnce (app : Application) (q : MessageQueue) (s : Session) : Error → Prop
  /-- There is no method to patch for. -/
  | method {e : Error} {s' : Session} (hmethod : exec (patchMethod app) s = (.error e, s')) :
      FailsAtOnce app q s e
  /-- The first task found is refused its requests. -/
  | firstTask {m : Method} {s' : Session} {x : TaskId × Task} {e : Error}
      (hmethod : exec (patchMethod app) s = (.ok (some m), s'))
      (hfirst : (scanOf q s'.passport).found.head? = some x)
      (hrefused : refusal? app m s'.passport.bpd x.2 = some e) : FailsAtOnce app q s e

/-- A queue that could not be patched is as it was if patching failed at once. Otherwise the tasks
that have been added remain in it. -/
theorem kept_or_grown_of_failed_patch {app : Application} {q p : MessageQueue} {s s'' : Session}
    {e : Error} (h : perform (patch app q) s = ((.error e, p), s'')) :
    FailsAtOnce app q s e ∧ p = q ∨
      ¬ FailsAtOnce app q s e ∧ q.tasks.length < p.tasks.length := by
  simp only [patch, perform_bind, perform_run] at h
  rcases hmethod : exec (patchMethod app) s with ⟨e' | _ | m, s'⟩
  · simp only [hmethod, perform_pure, Prod.mk.injEq, Except.error.injEq] at h
    obtain ⟨⟨rfl, rfl⟩, rfl⟩ := h
    exact .inl ⟨.method hmethod, rfl⟩
  · simp [hmethod] at h
  · simp only [hmethod] at h
    cases hfirst : (scanOf q s'.passport).found.head? with
    | none =>
      rw [perform_patchMessages_of_none app m q.tasks hfirst] at h
      cases congrArg (·.1.1) h
    | some x =>
      have hsome := perform_patchMessages_of_some app m q.tasks hfirst
      rw [h] at hsome
      obtain ⟨e', hrefused, heq⟩ | ⟨hnone, hlength⟩ := hsome
      · obtain ⟨herror, rfl⟩ := Prod.mk.inj heq
        obtain rfl := Except.error.inj herror
        exact .inl ⟨.firstTask hmethod hfirst hrefused, rfl⟩
      · refine .inr ⟨?_, hlength⟩
        rintro (hfails | ⟨hmethod', hfirst', hrefused⟩)
        · cases (Prod.mk.inj (hmethod.symm.trans hfails)).1
        · obtain ⟨hm, rfl⟩ := Prod.mk.inj (hmethod.symm.trans hmethod')
          obtain rfl := Option.some.inj (Except.ok.inj hm)
          obtain rfl := Option.some.inj (hfirst.symm.trans hfirst')
          rw [hnone] at hrefused
          cases hrefused

/-- A queue that could not be patched is as it was exactly if patching failed at once: if there is
no method to patch for, or if the first task found is refused its requests. Otherwise there are
more tasks in it than before. The dialog whose queue it is goes on with the queue that is left. -/
theorem queue_kept_iff_of_failed_patch {app : Application} {q p : MessageQueue} {s s'' : Session}
    {e : Error} (h : perform (patch app q) s = ((.error e, p), s'')) :
    (p = q ↔ FailsAtOnce app q s e) ∧ (p ≠ q → q.tasks.length < p.tasks.length) ∧
      ∀ c : Context, c.queue = some q →
        perform (handle app .jobsCreated c) s = ((.error e, { c with queue := some p }), s'') := by
  refine ⟨?_, ?_, fun c hc => ?_⟩
  · rcases kept_or_grown_of_failed_patch h with ⟨hfails, rfl⟩ | ⟨hfails, hlength⟩
    · exact iff_of_true rfl hfails
    · refine iff_of_false (fun hp => ?_) hfails
      rw [hp] at hlength
      exact Nat.lt_irrefl _ hlength
  · intro hp
    rcases kept_or_grown_of_failed_patch h with ⟨-, hkept⟩ | ⟨-, hlength⟩
    · exact absurd hkept hp
    · exact hlength
  · simp only [handle, hc, perform_bind, h, perform_pure]

/-! ### A sample failure -/

/-- An application that cannot encode the second one of two transfers. -/
def halfApplication : Application :=
  { steadyApplication "" with
    encodeSegment := fun t =>
      if t.externalId = some "second" then .error .encodingFailed else .ok [] }

/-- Two transfers in messages of their own. -/
def twoTransfers : MessageQueue where
  tasks :=
    [{ code := "HKCCS", version := 1, externalId := some "first" },
      { code := "HKCCS", version := 1, externalId := some "second" }]
  messages := [[0], [1]]

/-- The request for the first transfer remains when the second one fails. -/
theorem patch_twoTransfers :
    ∃ p s'', perform (patch halfApplication twoTransfers) { passport := listPassport } =
        ((.error .encodingFailed, p), s'') ∧
      p.messages = [[2], [0], [1]] ∧ twoTransfers.tasks.length < p.tasks.length := by
  have herror : (perform (patch halfApplication twoTransfers)
      { passport := listPassport }).1.1 = .error .encodingFailed := by
    decide +kernel
  have hmessages : (perform (patch halfApplication twoTransfers)
      { passport := listPassport }).1.2.messages = [[2], [0], [1]] := by
    decide +kernel
  rcases hrun : perform (patch halfApplication twoTransfers) { passport := listPassport }
    with ⟨⟨outcome, p⟩, s''⟩
  rw [hrun] at herror hmessages
  obtain rfl : outcome = .error .encodingFailed := herror
  refine ⟨p, s'', rfl, hmessages, (queue_kept_iff_of_failed_patch hrun).2.1 ?_⟩
  rintro rfl
  cases hmessages

end TanDialog.Passport
