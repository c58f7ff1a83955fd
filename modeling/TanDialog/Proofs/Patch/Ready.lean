import TanDialog.Proofs.Patch.Links

/-!
# Patched queues are ready to be sent

Whatever the method in use, patching a queue of business tasks gives a queue that can be sent
(`ready_of_patch`): the steps are in order, a first step waits for the reply that its second step
needs, and no second step has a reference yet. Under the one-step method and under variant one there
are no second steps at all.
-/

namespace TanDialog

namespace Task

/-- The second step that a task names. -/
def namedStep? (t : Task) : Option TaskId := t.tanRequest?.bind (·.step2)

theorem namedStep?_of_business {t : Task} (h : t.kind = .business) : t.namedStep? = none := by
  simp [namedStep?, tanRequest?, h]

end Task

theorem Ready.of_namedStep? {q : MessageQueue} (h : ∀ t ∈ q.tasks, t.namedStep? = none) :
    Ready q := by
  have hnone (f : TaskId) : q.secondStep? f = none := by
    refine Option.eq_none_iff_forall_ne_some.mpr fun k hk => ?_
    have hnamed := (MessageQueue.secondStep?_eq_some_iff.mp hk).1
    simp only [MessageQueue.named?, MessageQueue.task?] at hnamed
    cases ht : q.tasks[f]? with
    | none => simp [ht] at hnamed
    | some t =>
      have := h t (List.mem_of_getElem? ht)
      simp only [Task.namedStep?] at this
      simp [ht, this] at hnamed
  exact
    { inOrder := .of_none hnone _
      awaits := fun f k hk => by simp [hnone f] at hk
      blank := fun f k hk => by simp [hnone f] at hk }

namespace Passport

variable {app : Application} {m : Method}

/-! ### Variant one -/

theorem namedStep?_of_announcement {t r : Task} {s s' : Session}
    (h : exec (announcement app m t) s = (.ok r, s')) : r.namedStep? = none := by
  simp only [announcement, exec_bind_ok, exec_pure] at h
  obtain ⟨_, _, -, _, _, -, _, _, -, h⟩ := h
  obtain rfl := Except.ok.inj (Prod.mk.inj h).1
  rfl

/-- Marking a task does not name a second step. -/
theorem namedStep?_of_mem_modify {tasks : List Task} (h : ∀ t ∈ tasks, t.namedStep? = none)
    (id : TaskId) :
    ∀ t ∈ tasks.modify id ({ · with tanApplied := true }), t.namedStep? = none := by
  intro t ht
  obtain ⟨i, hi⟩ := List.mem_iff_getElem?.mp ht
  rw [List.getElem?_modify, Option.map_eq_map, Option.map_eq_some_iff] at hi
  obtain ⟨u, hu, rfl⟩ := hi
  have hnone := h u (List.mem_of_getElem? hu)
  split
  · exact hnone
  · exact hnone

theorem namedStep?_of_patchTask (hv : m.variant = .one) {id : TaskId} {a b : Patching}
    {s s' : Session} (h : exec (patchTask app m id a) s = (.ok b, s'))
    (ha : ∀ t ∈ a.tasks, t.namedStep? = none) : ∀ t ∈ b.tasks, t.namedStep? = none := by
  rw [patchTask] at h
  split at h
  case h_1 =>
    obtain rfl := Except.ok.inj (Prod.mk.inj h).1
    exact ha
  case h_2 task _ =>
    simp only [exec_bind, exec_lift, perform_lookUpRequirement] at h
    split at h
    · simp only [exec_bind_ok, exec_pure, addRequests, hv] at h
      obtain ⟨_, _, ⟨r, _, hr, hr'⟩, h⟩ := h
      obtain rfl := Except.ok.inj (Prod.mk.inj hr').1
      obtain rfl := Except.ok.inj (Prod.mk.inj h).1
      refine namedStep?_of_mem_modify (fun t ht => ?_) id
      rcases List.mem_append.mp ht with ht | ht
      · exact ha t ht
      · obtain rfl := List.mem_singleton.mp ht
        exact namedStep?_of_announcement hr
    · obtain rfl := Except.ok.inj (Prod.mk.inj h).1
      exact ha

theorem namedStep?_of_patchTasks (hv : m.variant = .one) {ids : List TaskId} {a b : Patching}
    {s s' : Session} (h : perform (patchTasks app m ids a) s = ((.ok (), b), s'))
    (ha : ∀ t ∈ a.tasks, t.namedStep? = none) : ∀ t ∈ b.tasks, t.namedStep? = none := by
  induction ids generalizing a s with
  | nil =>
    obtain rfl := (Prod.mk.inj (Prod.mk.inj h).1).2
    exact ha
  | cons id ids ih =>
    simp only [patchTasks, perform_bind, perform_run] at h
    rcases hstep : exec (patchTask app m id a) s with ⟨_ | c, t⟩
    · simp [hstep] at h
    · rw [hstep] at h
      exact ih h (namedStep?_of_patchTask hv hstep ha)

theorem namedStep?_of_patchMessages (hv : m.variant = .one) {messages : List Message}
    {tasks : List Task} {p : MessageQueue} {s s' : Session}
    (h : perform (patchMessages app m messages tasks) s = ((.ok (), p), s'))
    (ha : ∀ t ∈ tasks, t.namedStep? = none) : ∀ t ∈ p.tasks, t.namedStep? = none := by
  induction messages generalizing tasks p s with
  | nil =>
    obtain rfl := (Prod.mk.inj (Prod.mk.inj h).1).2
    exact ha
  | cons message messages ih =>
    simp only [patchMessages, perform_bind] at h
    rcases hstep : perform (patchTasks app m message { tasks }) s with ⟨⟨_ | _, b⟩, t⟩
    · simp [hstep] at h
    · simp only [hstep, perform_bind] at h
      rcases hrest : perform (patchMessages app m messages b.tasks) t with ⟨⟨outcome, rest⟩, u⟩
      simp only [hrest, perform_pure, Prod.mk.injEq] at h
      obtain ⟨⟨rfl, rfl⟩, rfl⟩ := h
      have hnone : ∀ t ∈ rest.tasks, t.namedStep? = none :=
        ih hrest (namedStep?_of_patchTasks hv hstep ha)
      exact hnone

/-! ### All methods -/

/-- Patching a queue of business tasks makes it ready. -/
theorem ready_of_patch {q p : MessageQueue} {s s' : Session}
    (hbusiness : ∀ t ∈ q.tasks, t.kind = .business)
    (hq : ∀ message ∈ q.messages, ∀ i ∈ message, i < q.tasks.length)
    (h : perform (patch app q) s = ((.ok (), p), s')) : Ready p := by
  have hplain : ∀ t ∈ q.tasks, t.namedStep? = none := fun t ht =>
    t.namedStep?_of_business (hbusiness t ht)
  rcases hm : exec (patchMethod app) s with ⟨_ | _ | m, t⟩
  · simp [patch, perform_bind, hm] at h
  · simp only [patch, perform_bind, perform_run, hm, perform_pure, Prod.mk.injEq] at h
    obtain ⟨⟨-, rfl⟩, -⟩ := h
    exact .of_namedStep? hplain
  · cases hv : m.variant with
    | one =>
      simp only [patch, perform_bind, perform_run, hm] at h
      exact .of_namedStep? (namedStep?_of_patchMessages hv h hplain)
    | two =>
      rw [perform_patch_two hm hv hq] at h
      obtain rfl := (Prod.mk.inj (Prod.mk.inj h).1).2
      exact
        { inOrder := Scan.inOrder_layout hbusiness hq _ _
          awaits := fun f k hk => by
            obtain ⟨j, hj, rfl, -⟩ := (Scan.secondStep?_arena hbusiness _ _).mp hk
            rw [MessageQueue.task?, Scan.getElem?_arena_firstNumber, List.getElem?_eq_getElem hj]
            rfl
          blank := fun f k hk => by
            obtain ⟨j, hj, -, rfl⟩ := (Scan.secondStep?_arena hbusiness _ _).mp hk
            rw [MessageQueue.task?, Scan.getElem?_arena_secondNumber, List.getElem?_eq_getElem hj]
            exact ⟨_, rfl, rfl, rfl⟩ }

end Passport

end TanDialog
