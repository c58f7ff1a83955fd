import TanDialog.Proofs.Patch.Failure

/-!
# Patching twice

A queue that has been patched is left alone by patching it again (`patch_idempotent`). After the
first pass every number that a message names is idle: the task there has its request, or it needs
none (`Idle`). One task that is patched becomes idle, and it stays so from then on, since three
things hold of all that follows. Look-ups can only end the verification of the passport (`Eased`);
the old tasks keep their codes and their requests, and the new ones are TAN requests (`Grown`); and
TAN requests do not need a TAN themselves, which is the one thing that the bank parameters could
spoil.
-/

namespace TanDialog.Passport

open Scan

/-! ### Look-ups end a verification at most -/

/-- A passport comes from another one by look-ups. -/
def Eased (p p' : Passport) : Prop := p' = p ∨ p' = { p with verifyTanMode := false }

namespace Eased

variable {p p' p'' : Passport}

theorem refl (p : Passport) : Eased p p := .inl rfl

theorem lookedUp (p : Passport) (code : String) : Eased p (p.lookedUp code) := by
  rw [Passport.lookedUp]
  split
  · exact .inr rfl
  · exact .refl p

theorem trans (h : Eased p p') (h' : Eased p' p'') : Eased p p'' := by
  rcases h with rfl | rfl
  · exact h'
  · rcases h' with rfl | rfl <;> exact .inr rfl

theorem current_eq (h : Eased p p') : p'.current = p.current := by
  rcases h with rfl | rfl <;> rfl

theorem catalog_eq (h : Eased p p') : p'.catalog = p.catalog := by
  rcases h with rfl | rfl <;> rfl

/-- A segment that needs no TAN needs none later either. -/
theorem requirement_ne {code : String} (h : Eased p p') (hne : p.requirement code ≠ .required) :
    p'.requirement code ≠ .required := by
  rcases h with rfl | rfl
  · exact hne
  · intro hr
    refine hne ?_
    simp only [requirement] at hr ⊢
    cases hbpd : p.bpd with
    | none => simp [hbpd] at hr
    | some bpd =>
      simp only [hbpd] at hr ⊢
      cases hdeclared : BankParameters.declaredRequirement? bpd code with
      | some r => simpa [hdeclared] using hr
      | none =>
        -- what is not declared is required only while there is a verification
        simp only [hdeclared, verifies, Bool.and_false, Bool.false_and, Bool.false_eq_true,
          if_false] at hr
        split at hr <;> cases hr

end Eased

/-- TAN requests are never verified: they need a TAN if, and only if, the bank parameters say so. -/
theorem requirement_tanCode_eq_required_iff {p : Passport} :
    p.requirement Task.tanCode = .required ↔
      p.bpd.bind (BankParameters.declaredRequirement? · Task.tanCode) = some .required := by
  have hunverified (bpd : PropertySet) : p.verifies bpd Task.tanCode = false := by
    simp [verifies, Task.tanCode, identificationCode]
  rw [requirement]
  cases p.bpd with
  | none => simp
  | some bpd =>
    simp only [Option.bind_some, hunverified]
    cases BankParameters.declaredRequirement? bpd Task.tanCode with
    | some r => simp
    | none => cases BankParameters.knowsTransaction bpd Task.tanCode <;> simp

/-! ### Tasks that patching leaves alone -/

/-- The task with a number, if there is one, has its request or needs none. -/
def Idle (p : Passport) (tasks : List Task) (id : TaskId) : Prop :=
  ∀ t, tasks[id]? = some t → t.tanApplied = true ∨ p.requirement t.code ≠ .required

/-- The old tasks keep their codes and their requests, and the new ones are TAN requests. -/
def Grown (tasks tasks' : List Task) : Prop :=
  ∀ (id : TaskId) (t' : Task), tasks'[id]? = some t' → t'.code = Task.tanCode ∨
    ∃ t, tasks[id]? = some t ∧ t'.code = t.code ∧ (t.tanApplied = true → t'.tanApplied = true)

namespace Grown

theorem refl (tasks : List Task) : Grown tasks tasks := fun _ t ht => .inr ⟨t, ht, rfl, id⟩

theorem trans {tasks tasks' tasks'' : List Task} (h : Grown tasks tasks')
    (h' : Grown tasks' tasks'') : Grown tasks tasks'' := by
  intro id t'' ht''
  rcases h' id t'' ht'' with htan | ⟨t', ht', hcode', happlied'⟩
  · exact .inl htan
  · rcases h id t' ht' with htan | ⟨t, ht, hcode, happlied⟩
    · exact .inl (hcode'.trans htan)
    · exact .inr ⟨t, ht, hcode'.trans hcode, happlied' ∘ happlied⟩

/-- TAN requests are added behind the tasks. -/
theorem append (tasks : List Task) {requests : List Task}
    (h : ∀ r ∈ requests, r.code = Task.tanCode) : Grown tasks (tasks ++ requests) := by
  intro id t ht
  rcases Nat.lt_or_ge id tasks.length with hid | hid
  · rw [List.getElem?_append_left hid] at ht
    exact .inr ⟨t, ht, rfl, fun happlied => happlied⟩
  · rw [List.getElem?_append_right hid] at ht
    exact .inl (h t (List.mem_of_getElem? ht))

/-- A task is marked as having its request. -/
theorem mark (tasks : List Task) (id : TaskId) :
    Grown tasks (tasks.modify id ({ · with tanApplied := true })) := by
  intro i t' ht'
  rw [List.getElem?_modify] at ht'
  obtain ⟨t, ht, rfl⟩ := Option.map_eq_some_iff.mp ht'
  refine .inr ⟨t, ht, ?_⟩
  split
  · exact ⟨rfl, fun _ => rfl⟩
  · exact ⟨rfl, fun happlied => happlied⟩

end Grown

/-- What is idle stays so. -/
theorem Idle.later {p p' : Passport} {tasks tasks' : List Task} {id : TaskId}
    (h : Idle p tasks id) (hp : Eased p p') (htasks : Grown tasks tasks')
    (htan : p.requirement Task.tanCode ≠ .required) : Idle p' tasks' id := by
  intro t' ht'
  rcases htasks id t' ht' with hcode | ⟨t, ht, hcode, happlied⟩
  · exact .inr (hcode ▸ hp.requirement_ne htan)
  · exact (h t ht).imp happlied fun hne => hcode ▸ hp.requirement_ne hne

/-- A number behind the tasks is idle as soon as it is taken. -/
theorem Idle.of_length_le {p : Passport} {tasks tasks' : List Task} {id : TaskId}
    (hid : tasks.length ≤ id) (htasks : Grown tasks tasks')
    (htan : p.requirement Task.tanCode ≠ .required) : Idle p tasks' id := by
  have hidle : Idle p tasks id := by
    intro t ht
    rw [List.getElem?_eq_none hid] at ht
    cases ht
  exact hidle.later (.refl p) htasks htan

/-! ### The first pass -/

/-- The numbers that additions put into messages. -/
def Additions.ids (a : Additions) : List TaskId :=
  a.before.flatten ++ a.appended ++ a.after.flatten

theorem Additions.mem_flatten_around {a : Additions} {message : Message} {i : TaskId} :
    i ∈ (a.around message).flatten ↔ i ∈ message ∨ i ∈ a.ids := by
  simp only [around, ids, List.flatten_append, List.flatten_cons, List.flatten_nil,
    List.append_nil, List.mem_append]
  tauto

variable {app : Application} {m : Method}

/-- Adding the requests for a task leaves the passport alone. The requests stand behind the tasks,
and the messages get only numbers from there. -/
theorem exec_addRequests_ok {id : TaskId} {t : Task} {a b : Patching} {s s' : Session}
    (h : exec (addRequests app m id t a) s = (.ok b, s')) :
    s'.passport = s.passport ∧
      (∃ requests, b.tasks = a.tasks ++ requests ∧ ∀ r ∈ requests, r.code = Task.tanCode) ∧
      ∀ i ∈ b.additions.ids, i ∈ a.additions.ids ∨ a.tasks.length ≤ i := by
  cases hv : m.variant with
  | one =>
    rw [exec_addRequests_one app hv] at h
    obtain ⟨hb, rfl⟩ := Prod.mk.inj h
    cases hcontent : orderContent app m s.passport.bpd t with
    | error e => simp [hcontent, Except.map] at hb
    | ok content =>
      rw [hcontent] at hb
      obtain rfl := Except.ok.inj hb
      refine ⟨rfl, ⟨_, rfl, ?_⟩, fun i hi => ?_⟩
      · simp [announcementOf, Task.tanCode]
      · refine or_iff_not_imp_right.mpr fun hlt => ?_
        have hne : i ≠ a.tasks.length := fun heq => hlt (Nat.le_of_eq heq.symm)
        simpa [Additions.ids, hne] using hi
  | two =>
    simp only [addRequests, hv, exec_bind, exec_lift, perform_tanMedia, exec_pure] at h
    obtain ⟨hb, rfl⟩ := Prod.mk.inj h
    obtain rfl := Except.ok.inj hb
    refine ⟨rfl, ⟨_, rfl, ?_⟩, fun i hi => ?_⟩
    · simp [firstStep, secondStep, Task.ofRequest]
    · refine or_iff_not_imp_right.mpr fun hlt => ?_
      have hne : i ≠ a.tasks.length := fun heq => hlt (Nat.le_of_eq heq.symm)
      have hne' : i ≠ a.tasks.length + 1 := fun heq => hlt (heq ▸ Nat.le_succ _)
      simpa [Additions.ids, hne, hne'] using hi

/-- What patching for tasks with some numbers comes to: they are idle, and so is what is added. -/
structure Settles (ids : List TaskId) (a b : Patching) (s s' : Session) : Prop where
  eased : Eased s.passport s'.passport
  grown : Grown a.tasks b.tasks
  idle : ∀ i ∈ ids, Idle s'.passport b.tasks i
  added : ∀ i ∈ b.additions.ids, i ∈ a.additions.ids ∨ Idle s'.passport b.tasks i

/-- A task that is patched is idle. -/
theorem settles_of_exec_patchTask {id : TaskId} {a b : Patching} {s s' : Session}
    (htan : s.passport.requirement Task.tanCode ≠ .required)
    (h : exec (patchTask app m id a) s = (.ok b, s')) : Settles [id] a b s s' := by
  have hid {p : Passport} {tasks : List Task} (hidle : Idle p tasks id) :
      ∀ i ∈ [id], Idle p tasks i := by simpa using hidle
  cases ht : a.tasks[id]?.filter (!·.tanApplied) with
  | none =>
    simp only [patchTask, ht, exec_pure] at h
    obtain ⟨hb, rfl⟩ := Prod.mk.inj h
    obtain rfl := Except.ok.inj hb
    refine ⟨.refl _, .refl _, hid fun t htask => .inl ?_, fun i hi => .inl hi⟩
    simpa using Option.filter_eq_none_iff.mp ht t htask
  | some t =>
    obtain ⟨htask, -⟩ := Option.filter_eq_some_iff.mp ht
    have heased := Eased.lookedUp s.passport t.code
    simp only [patchTask, ht, exec_bind, exec_lift, perform_lookUpRequirement] at h
    by_cases hr : s.passport.requirement t.code = .required
    · rw [if_pos hr, exec_bind_ok] at h
      obtain ⟨c, u, hadd, hmark⟩ := h
      obtain ⟨hb, rfl⟩ := Prod.mk.inj hmark
      obtain rfl := Except.ok.inj hb
      obtain ⟨hp, ⟨requests, htasks, hrequests⟩, hadditions⟩ := exec_addRequests_ok hadd
      have heased : Eased s.passport u.passport := by
        rw [hp]
        exact heased
      have hgrown : Grown a.tasks (c.tasks.modify id ({ · with tanApplied := true })) := by
        refine .trans ?_ (.mark c.tasks id)
        rw [htasks]
        exact .append _ hrequests
      refine ⟨heased, hgrown, hid fun t' ht' => .inl ?_, fun i hi => ?_⟩
      · rw [List.getElem?_modify_eq] at ht'
        obtain ⟨t, -, rfl⟩ := Option.map_eq_some_iff.mp ht'
        rfl
      · exact (hadditions i hi).imp_right fun hlength =>
          .of_length_le hlength hgrown (heased.requirement_ne htan)
    · rw [if_neg hr, exec_pure] at h
      obtain ⟨hb, rfl⟩ := Prod.mk.inj h
      obtain rfl := Except.ok.inj hb
      refine ⟨heased, .refl _, hid fun t' ht' => .inr ?_, fun i hi => .inl hi⟩
      obtain rfl := Option.some.inj (htask.symm.trans ht')
      exact heased.requirement_ne hr

/-- What is idle after a first part of the work is so after the second one. -/
theorem Settles.append {ids ids' : List TaskId} {a b c : Patching} {s s' s'' : Session}
    (h : Settles ids a b s s') (h' : Settles ids' b c s' s'')
    (htan : s.passport.requirement Task.tanCode ≠ .required) :
    Settles (ids ++ ids') a c s s'' := by
  have hlater {i : TaskId} (hidle : Idle s'.passport b.tasks i) : Idle s''.passport c.tasks i :=
    hidle.later h'.eased h'.grown (h.eased.requirement_ne htan)
  refine ⟨h.eased.trans h'.eased, h.grown.trans h'.grown, fun i hi => ?_, fun i hi => ?_⟩
  · rcases List.mem_append.mp hi with hi | hi
    · exact hlater (h.idle i hi)
    · exact h'.idle i hi
  · rcases h'.added i hi with hi | hidle
    · exact (h.added i hi).imp_right hlater
    · exact .inr hidle

/-- The tasks of a message that is patched are idle. -/
theorem settles_of_perform_patchTasks {ids : List TaskId} {a b : Patching} {s s' : Session}
    (htan : s.passport.requirement Task.tanCode ≠ .required)
    (h : perform (patchTasks app m ids a) s = ((.ok (), b), s')) : Settles ids a b s s' := by
  induction ids generalizing a s with
  | nil =>
    obtain ⟨hb, rfl⟩ := Prod.mk.inj h
    obtain rfl := (Prod.mk.inj hb).2
    exact ⟨.refl _, .refl _, nofun, fun i hi => .inl hi⟩
  | cons id ids ih =>
    simp only [patchTasks, perform_bind, perform_run] at h
    rcases hstep : exec (patchTask app m id a) s with ⟨e | c, t⟩
    · rw [hstep] at h
      cases congrArg (·.1.1) h
    · rw [hstep] at h
      have hfirst := settles_of_exec_patchTask htan hstep
      exact hfirst.append (ih (hfirst.eased.requirement_ne htan) h) htan

/-- Everything that is named by messages that are patched is idle. -/
theorem idle_of_perform_patchMessages {messages : List Message} {tasks : List Task}
    {q : MessageQueue} {s s' : Session}
    (htan : s.passport.requirement Task.tanCode ≠ .required)
    (h : perform (patchMessages app m messages tasks) s = ((.ok (), q), s')) :
    Eased s.passport s'.passport ∧ Grown tasks q.tasks ∧
      ∀ i ∈ q.messages.flatten, Idle s'.passport q.tasks i := by
  induction messages generalizing tasks q s with
  | nil =>
    obtain ⟨hq, rfl⟩ := Prod.mk.inj h
    obtain rfl := (Prod.mk.inj hq).2
    exact ⟨.refl _, .refl _, nofun⟩
  | cons message messages ih =>
    simp only [patchMessages, perform_bind] at h
    rcases hfirst : perform (patchTasks app m message { tasks }) s with ⟨⟨e | _, b⟩, t⟩
    · rw [hfirst] at h
      cases congrArg (·.1.1) h
    · rw [hfirst] at h
      have hsettles := settles_of_perform_patchTasks htan hfirst
      rcases hrest : perform (patchMessages app m messages b.tasks) t with ⟨⟨o, rest⟩, u⟩
      simp only [perform_bind, hrest, perform_pure, Prod.mk.injEq] at h
      obtain ⟨⟨rfl, rfl⟩, rfl⟩ := h
      have htan' := hsettles.eased.requirement_ne htan
      obtain ⟨heased, hgrown, hidle⟩ := ih htan' hrest
      refine ⟨hsettles.eased.trans heased, hsettles.grown.trans hgrown, fun i hi => ?_⟩
      rw [List.flatten_append, List.mem_append, Additions.mem_flatten_around] at hi
      rcases hi with (hmessage | hadded) | hi
      · exact (hsettles.idle i hmessage).later heased hgrown htan'
      · rcases hsettles.added i hadded with hnone | hidle'
        · cases hnone
        · exact hidle'.later heased hgrown htan'
      · exact hidle i hi

/-! ### The second pass -/

/-- A scan of idle numbers finds nothing and looks nothing up that would matter. -/
theorem visitAll_of_idle {p : Passport} {tasks : List Task} {ids : List TaskId}
    (h : ∀ i ∈ ids, Idle p tasks i) : visitAll tasks ⟨p, []⟩ ids = ⟨p, []⟩ := by
  induction ids with
  | nil => rfl
  | cons id ids ih =>
    have hvisit : visit tasks ⟨p, []⟩ id = ⟨p, []⟩ := by
      rw [visit]
      split
      · rfl
      case h_2 t ht =>
        obtain ⟨htask, hpending⟩ := Option.filter_eq_some_iff.mp ht
        rcases h id (by simp) t htask with happlied | hne
        · simp [happlied] at hpending
        · rw [look, if_neg hne, lookedUp_of_requirement_ne hne]
    rw [visitAll_cons, hvisit]
    exact ih fun i hi => h i (by simp [hi])

/-- The method to patch for, as it follows from the one in use. -/
def methodToPatch (p : Passport) (id : String) : Except Error (Option Method) :=
  if id = Method.oneStepId then .ok none
  else match p.catalog.get? id with
    | some m => .ok (some m)
    | none => .error .unsupportedMethod

theorem exec_patchMethod_of_exec_currentMethod {id : String} {s s' : Session}
    (h : exec (currentMethod app false) s = (.ok id, s')) :
    exec (patchMethod app) s = (s'.passport.methodToPatch id, s') := by
  simp only [patchMethod, exec_bind, h, methodToPatch]
  split
  · rfl
  · simp only [exec_bind, exec_lift, Session.perform_getPassport]
    cases s'.passport.catalog.get? id <;> rfl

/-- Finding the method to patch for changes nothing but the method in use, from which it
follows. -/
theorem exec_patchMethod_ok {o : Option Method} {s s' : Session}
    (h : exec (patchMethod app) s = (.ok o, s')) :
    ∃ id auto, s'.passport = { s.passport with current := some id, autoSelected := auto } ∧
      s'.passport.methodToPatch id = .ok o := by
  obtain ⟨id, u, hid, -⟩ := exec_bind_ok.mp h
  obtain ⟨auto, hp⟩ := exec_currentMethod_ok hid
  rw [exec_patchMethod_of_exec_currentMethod hid] at h
  obtain ⟨ho, rfl⟩ := Prod.mk.inj h
  exact ⟨id, auto, hp, ho⟩

/-- The method to patch for is found again as long as the method in use and the catalog stay. -/
theorem exec_patchMethod_again {o : Option Method} {s s' : Session}
    (h : exec (patchMethod app) s = (.ok o, s')) (app' : Application) {t : Session}
    (ht : Eased s'.passport t.passport) : exec (patchMethod app') t = (.ok o, t) := by
  obtain ⟨id, auto, hp, ho⟩ := exec_patchMethod_ok h
  have hcurrent : t.passport.current = some id := by
    rw [ht.current_eq, hp]
  rw [exec_patchMethod_of_exec_currentMethod (exec_currentMethod_of_some hcurrent), ← ho,
    methodToPatch, ht.catalog_eq]
  rfl

/-- **Patching twice.** A queue that has been patched is left alone by patching it again with the
passport that has come of it, for every method and queue and whatever calls have been made in the
meantime: queue and passport stay as they are, and no call is made. The bank must not want a TAN for
TAN requests themselves, or each pass would find those that the pass before has added. -/
theorem patch_idempotent {q p : MessageQueue} {s s' : Session}
    (htan : s.passport.bpd.bind (BankParameters.declaredRequirement? · Task.tanCode) ≠
      some .required)
    (h : perform (patch app q) s = ((.ok (), p), s')) (app' : Application) (calls : List Call) :
    perform (patch app' p) ⟨s'.passport, calls⟩ = ((.ok (), p), ⟨s'.passport, calls⟩) := by
  rw [Ne, ← requirement_tanCode_eq_required_iff] at htan
  simp only [patch, perform_bind, perform_run] at h
  rcases hmethod : exec (patchMethod app) s with ⟨e | _ | m, u⟩
  · simp [hmethod] at h
  · simp only [hmethod, perform_pure, Prod.mk.injEq, true_and] at h
    obtain ⟨rfl, rfl⟩ := h
    simp only [patch, perform_bind, perform_run,
      exec_patchMethod_again hmethod app' (t := ⟨u.passport, calls⟩) (.refl _), perform_pure]
  · simp only [hmethod] at h
    have htan' : u.passport.requirement Task.tanCode ≠ .required := by
      obtain ⟨id, auto, hp, -⟩ := exec_patchMethod_ok hmethod
      rw [hp]
      exact htan
    obtain ⟨heased, -, hidle⟩ := idle_of_perform_patchMessages htan' h
    have hscan := visitAll_of_idle hidle
    have hnone : (visitAll p.tasks ⟨s'.passport, []⟩ p.messages.flatten).found.head? = none := by
      rw [hscan]
      rfl
    have hagain :=
      perform_patchMessages_of_none app' m p.tasks (s := ⟨s'.passport, calls⟩) hnone
    simp only [hscan] at hagain
    simp only [patch, perform_bind, perform_run,
      exec_patchMethod_again hmethod app' (t := ⟨s'.passport, calls⟩) heased, hagain]

/-- The requests that are added to the sample queue of variant two are not added again. -/
theorem patch_transferQueue_twice :
    pushPassport.bpd.bind (BankParameters.declaredRequirement? · Task.tanCode) ≠ some .required ∧
      ∃ p s', perform (patch (steadyApplication "") transferQueue) { passport := pushPassport } =
          ((.ok (), p), s') ∧
        transferQueue.tasks.length < p.tasks.length ∧
        perform (patch (steadyApplication "") p) s' = ((.ok (), p), s') := by
  have htan : pushPassport.bpd.bind (BankParameters.declaredRequirement? · Task.tanCode) ≠
      some .required := by decide +kernel
  have hmethod : exec (patchMethod (steadyApplication "")) { passport := pushPassport } =
      (.ok (some pushMethod), { passport := pushPassport }) := rfl
  have hpatched := perform_patch_two (q := transferQueue) hmethod rfl (by decide)
  have hgrows : transferQueue.tasks.length < ((scanOf transferQueue pushPassport).arena
      transferQueue.tasks pushMethod (mediumOf (steadyApplication "") pushMethod
        { passport := pushPassport })).length := by
    rw [length_arena]
    decide +kernel
  generalize sessionAt pushMethod _ _ = s' at hpatched
  exact ⟨htan, _, s', hpatched, hgrows,
    patch_idempotent htan hpatched (steadyApplication "") s'.calls⟩

end TanDialog.Passport
