import TanDialog.Proofs.Patch.Steps
import TanDialog.Proofs.Patch.VariantOne

/-!
# The last message of a patched queue

Patching a queue of business tasks never leaves a task that awaits a challenge to the end
(`closes_of_patch`). Under variant two the requests that await one are put behind the tasks of a
message, and a second step follows for each of them. Under variant one they go ahead of the message,
which stays the last one. So the reply to the last message is not searched for a challenge.
-/

namespace TanDialog

/-- The queue has a last message, and no task of this message awaits a challenge. -/
def MessageQueue.Closes (p : MessageQueue) : Prop :=
  ∃ last, p.messages.getLast? = some last ∧
    ∀ id ∈ last, (p.task? id).any Dialog.awaitsChallenge = false

theorem Dialog.any_awaitsChallenge_of_tanRequest? {t : Option Task}
    (h : t.bind Task.tanRequest? = none) : t.any Dialog.awaitsChallenge = false := by
  cases t with
  | none => rfl
  | some t =>
    have hnone : t.tanRequest? = none := h
    rw [Option.any_some, awaitsChallenge, hnone, Option.any_none]

namespace Scan

variable {tasks : List Task} {messages : List Message}

theorem layout_ne_nil (h : messages ≠ []) (s : Scan) : layout tasks messages s ≠ [] := by
  cases messages with
  | nil => exact absurd rfl h
  | cons message messages => simp [layout, group]

/-- The last message of a group holds no first step: if a task has been found, it is the one for a
second step. -/
theorem getLast?_group {n : Nat} {message : Message} (hids : ∀ id ∈ message, id < n) (a b : Nat) :
    ∃ last, (group n message a b).getLast? = some last ∧ ∀ j, firstNumber n j ∉ last := by
  cases hfound : b - a with
  | zero =>
    refine ⟨message, by simp [group, hfound], fun j hj => ?_⟩
    have : n + 2 * j + 1 < n := hids _ hj
    omega
  | succ k =>
    refine ⟨[secondNumber n a], ?_, fun j hj => ?_⟩
    · rw [group, hfound, List.range'_succ, List.reverse_cons, List.map_append, List.map_singleton,
        ← List.cons_append, List.getLast?_concat]
    · exact firstNumber_ne_secondNumber n j a (List.mem_singleton.mp hj)

/-- The same holds of a whole layout. -/
theorem getLast?_layout (hids : ∀ message ∈ messages, ∀ id ∈ message, id < tasks.length)
    (hne : messages ≠ []) (s : Scan) :
    ∃ last, (layout tasks messages s).getLast? = some last ∧
      ∀ j, firstNumber tasks.length j ∉ last := by
  induction messages generalizing s with
  | nil => exact absurd rfl hne
  | cons message messages ih =>
    rw [layout]
    cases messages with
    | nil =>
      rw [layout, List.append_nil]
      exact getLast?_group (hids message (by simp)) _ _
    | cons next messages =>
      rw [List.getLast?_append_of_ne_nil _ (layout_ne_nil (by simp) _)]
      exact ih (fun m hm => hids m (by simp [hm])) (by simp) _

/-- Announcing tasks leaves the last message in its place. -/
theorem getLast?_announcedLayout (messages : List Message) (s : Scan) :
    (announcedLayout tasks messages s).getLast? = messages.getLast? := by
  induction messages generalizing s with
  | nil => rfl
  | cons message messages ih =>
    rw [announcedLayout, List.getLast?_append, ih, announcedGroup, List.getLast?_concat,
      List.getLast?_cons]
    cases messages.getLast? <;> rfl

end Scan

namespace Passport

open Scan

variable {app : Application}

/-- Under variant one, patching marks tasks, adds others behind them, and keeps to the layout of the
scan. -/
theorem layout_of_perform_patch_one {m : Method} {q p : MessageQueue} {s s' s'' : Session}
    (hm : exec (patchMethod app) s = (.ok (some m), s')) (hv : m.variant = .one)
    (hq : ∀ message ∈ q.messages, ∀ i ∈ message, i < q.tasks.length)
    (h : perform (patch app q) s = ((.ok (), p), s'')) :
    (∃ ids added, p.tasks = marked q.tasks ids ++ added) ∧
      p.messages = announcedLayout q.tasks q.messages ⟨s'.passport, []⟩ := by
  have hstart : q.tasks = marked q.tasks [] ++ [] := by rw [marked_nil, List.append_nil]
  have hfresh : GoesOnFrom s'.passport ⟨s'.passport, []⟩ := ⟨s'.passport.verifyTanMode, rfl⟩
  simp only [patch, perform_bind, perform_run, hm] at h
  rw [hstart] at h
  obtain ⟨requests, -, htasks, hmessages, -⟩ :=
    announced_of_perform_patchMessages hv hq hfresh .nil h
  exact ⟨⟨_, requests, htasks⟩, hmessages⟩

/-- Patching a queue of business tasks with at least one message gives a queue whose last message
awaits no challenge. -/
theorem closes_of_patch {q p : MessageQueue} {s s' : Session}
    (hbusiness : ∀ t ∈ q.tasks, t.kind = .business)
    (hq : ∀ message ∈ q.messages, ∀ i ∈ message, i < q.tasks.length) (hne : q.messages ≠ [])
    (h : perform (patch app q) s = ((.ok (), p), s')) : p.Closes := by
  have hlast := List.getLast?_eq_some_getLast hne
  have hbounds := hq _ (List.getLast_mem hne)
  rcases hm : exec (patchMethod app) s with ⟨_ | _ | m, t⟩
  · simp [patch, perform_bind, hm] at h
  · -- without a method to patch for, the queue stays as it is
    simp only [patch, perform_bind, perform_run, hm, perform_pure, Prod.mk.injEq] at h
    obtain ⟨⟨-, rfl⟩, -⟩ := h
    refine ⟨_, hlast, fun id hid => Dialog.any_awaitsChallenge_of_tanRequest? ?_⟩
    have hplain := tanRequest?_marked_append hbusiness [] [] (hbounds id hid)
    rwa [marked_nil, List.append_nil] at hplain
  · cases hv : m.variant with
    | one =>
      obtain ⟨⟨ids, added, htasks⟩, hmessages⟩ := layout_of_perform_patch_one hm hv hq h
      refine ⟨_, by rw [hmessages, getLast?_announcedLayout, hlast], fun id hid => ?_⟩
      refine Dialog.any_awaitsChallenge_of_tanRequest? ?_
      rw [MessageQueue.task?, htasks]
      exact tanRequest?_marked_append hbusiness _ _ (hbounds id hid)
    | two =>
      rw [perform_patch_two hm hv hq] at h
      obtain rfl := (Prod.mk.inj (Prod.mk.inj h).1).2
      obtain ⟨last, hlast, hfirst⟩ := getLast?_layout hq hne ⟨t.passport, []⟩
      refine ⟨last, hlast, fun id hid => Bool.eq_false_iff.mpr fun hawaits => ?_⟩
      obtain ⟨j, -, rfl⟩ := awaitsChallenge_arena hbusiness _ hawaits
      exact hfirst j hid

end Passport

end TanDialog
