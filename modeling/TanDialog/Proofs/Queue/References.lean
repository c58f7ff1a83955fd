import TanDialog.Dialog.Run

/-!
# Order references in a queue

The reply to a message with first steps puts an order reference into the second steps that belong
to them (`settle`). This changes nothing but order references: the links between the steps stay, so
that what a reply does can be told from the queue before anything was sent.

`InOrder` says of a queue what makes every reference reach its second step in time, and for good.
-/

namespace TanDialog

namespace Task

@[simp]
theorem tanRequest?_withOrderRef (t : Task) (ref : String) :
    (t.withOrderRef ref).tanRequest? = t.tanRequest?.map ({ · with orderRef := ref }) := by
  rw [withOrderRef]
  split <;> rename_i h <;> simp [tanRequest?, h]

/-- The last reference counts. -/
@[simp]
theorem withOrderRef_withOrderRef (t : Task) (ref ref' : String) :
    (t.withOrderRef ref).withOrderRef ref' = t.withOrderRef ref' := by
  rcases t with ⟨_, _, _, _, _, _, kind⟩
  cases kind <;> rfl

/-- The order reference of a request; a business task has none. -/
def orderRef? (t : Task) : Option String := t.tanRequest?.map (·.orderRef)

/-- A reference that is there already changes nothing. -/
theorem withOrderRef_of_orderRef? {t : Task} {ref : String} (h : t.orderRef? = some ref) :
    t.withOrderRef ref = t := by
  rcases t with ⟨_, _, _, _, _, _, kind⟩
  cases kind with
  | business => rfl
  | tan request =>
    obtain rfl : request.orderRef = ref := by simpa [orderRef?, tanRequest?] using h
    rfl

end Task

namespace MessageQueue

/-! ### A single reference -/

theorem task?_modifyTask (q : MessageQueue) (i id : TaskId) (f : Task → Task) :
    (q.modifyTask i f).task? id = if i = id then (q.task? id).map f else q.task? id := by
  simp only [modifyTask, task?, List.getElem?_modify]
  split <;> simp

/-- Only the second step that belongs to a task gets the reference. -/
theorem task?_forwardOrderRef (q : MessageQueue) (f id : TaskId) (ref : String) :
    (q.forwardOrderRef f ref).2.task? id =
      if q.secondStep? f = some id then (q.task? id).map (·.withOrderRef ref) else q.task? id := by
  rw [forwardOrderRef]
  cases q.secondStep? f with
  | none => simp
  | some k => simp [task?_modifyTask]

theorem messages_forwardOrderRef (q : MessageQueue) (f : TaskId) (ref : String) :
    (q.forwardOrderRef f ref).2.messages = q.messages := by
  rw [forwardOrderRef]
  split <;> rfl

theorem length_tasks_forwardOrderRef (q : MessageQueue) (f : TaskId) (ref : String) :
    (q.forwardOrderRef f ref).2.tasks.length = q.tasks.length := by
  rw [forwardOrderRef]
  split <;> simp [modifyTask]

/-- The second step that a request names, whether there is such a task or not. -/
def named? (q : MessageQueue) (id : TaskId) : Option TaskId :=
  ((q.task? id).bind Task.tanRequest?).bind (·.step2)

/-- Whether a number is that of a TAN request. -/
def isRequest (q : MessageQueue) (id : TaskId) : Bool := ((q.task? id).bind Task.tanRequest?).isSome

theorem secondStep?_eq_some_iff {q : MessageQueue} {f k : TaskId} :
    q.secondStep? f = some k ↔ q.named? f = some k ∧ q.isRequest k := by
  simp only [secondStep?, named?, isRequest, Option.bind_eq_bind, Option.pure_def,
    Option.bind_eq_some_iff, Option.isSome_iff_exists]
  constructor
  · rintro ⟨t, ht, r, hr, k', hk, u, hu, r', hr', hkk⟩
    obtain rfl := Option.some.inj hkk
    exact ⟨⟨r, ⟨t, ht, hr⟩, hk⟩, r', u, hu, hr'⟩
  · rintro ⟨⟨r, ⟨t, ht, hr⟩, hk⟩, r', u, hu, hr'⟩
    exact ⟨t, ht, r, hr, k, hk, u, hu, r', hr', rfl⟩

/-- Which second step belongs to which first step does not depend on order references. -/
theorem secondStep?_forwardOrderRef (q : MessageQueue) (f g : TaskId) (ref : String) :
    (q.forwardOrderRef f ref).2.secondStep? g = q.secondStep? g := by
  have hnamed : (q.forwardOrderRef f ref).2.named? g = q.named? g := by
    simp only [named?, task?_forwardOrderRef]
    split
    · cases q.task? g with
      | none => rfl
      | some t => cases ht : t.tanRequest? <;> simp [ht]
    · rfl
  have hrequest (k : TaskId) : (q.forwardOrderRef f ref).2.isRequest k = q.isRequest k := by
    simp only [isRequest, task?_forwardOrderRef]
    split
    · cases q.task? k with
      | none => rfl
      | some t => simp
    · rfl
  refine Option.ext fun k => ?_
  rw [secondStep?_eq_some_iff, secondStep?_eq_some_iff, hnamed, hrequest]

/-! ### The references of a reply -/

/-- Puts one reference into the second steps that belong to some tasks. -/
def forwardAll (q : MessageQueue) (ref : String) (ids : List TaskId) : MessageQueue :=
  ids.foldl (fun q id => (q.forwardOrderRef id ref).2) q

theorem messages_forwardAll (q : MessageQueue) (ref : String) (ids : List TaskId) :
    (q.forwardAll ref ids).messages = q.messages := by
  induction ids generalizing q with
  | nil => rfl
  | cons id ids ih => exact (ih _).trans (messages_forwardOrderRef q id ref)

theorem length_tasks_forwardAll (q : MessageQueue) (ref : String) (ids : List TaskId) :
    (q.forwardAll ref ids).tasks.length = q.tasks.length := by
  induction ids generalizing q with
  | nil => rfl
  | cons id ids ih => exact (ih _).trans (length_tasks_forwardOrderRef q id ref)

theorem secondStep?_forwardAll (q : MessageQueue) (ref : String) (ids : List TaskId) (g : TaskId) :
    (q.forwardAll ref ids).secondStep? g = q.secondStep? g := by
  induction ids generalizing q with
  | nil => rfl
  | cons id ids ih => exact (ih _).trans (secondStep?_forwardOrderRef q id g ref)

theorem task?_forwardAll (q : MessageQueue) (ref : String) (ids : List TaskId) (id : TaskId) :
    (q.forwardAll ref ids).task? id =
      if ∃ f ∈ ids, q.secondStep? f = some id then (q.task? id).map (·.withOrderRef ref)
      else q.task? id := by
  induction ids generalizing q with
  | nil => simp [forwardAll]
  | cons f ids ih =>
    have hstep : q.forwardAll ref (f :: ids) = (q.forwardOrderRef f ref).2.forwardAll ref ids := rfl
    rw [hstep, ih]
    simp only [secondStep?_forwardOrderRef, task?_forwardOrderRef, List.mem_cons,
      exists_eq_or_imp]
    by_cases hf : q.secondStep? f = some id
    · by_cases hr : ∃ g ∈ ids, q.secondStep? g = some id
      · simp only [hf, hr, if_true, or_self, Option.map_map]
        congr 1
        funext t
        exact t.withOrderRef_withOrderRef ref ref
      · simp [hf, hr]
    · simp [hf]

end MessageQueue

end TanDialog
