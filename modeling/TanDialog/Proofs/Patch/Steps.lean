import TanDialog.Proofs.Patch.Ready

/-!
# The two steps in a patched queue

What sending a queue needs to know of it when business tasks have been patched under a method of
variant two (`InSteps`): only first steps await a challenge, every second step is in a message of
its own, and right before this message there is either the one with its first step or one whose
reply is not searched for a challenge (`PatchesSteps.inSteps`).
-/

namespace TanDialog

/-- A queue whose first steps are followed by their second steps. -/
structure InSteps (p : MessageQueue) : Prop where
  ready : Ready p
  /-- Only first steps await a challenge. -/
  linked : ∀ f, (p.task? f).any Dialog.awaitsChallenge → ∃ k, p.secondStep? f = some k
  /-- A second step is in a message of its own. -/
  alone : ∀ f k message, p.secondStep? f = some k → message ∈ p.messages → k ∈ message →
    message = [k]
  /-- The message before it holds its first step, or no first step at all. -/
  follows : ∀ f k b, p.secondStep? f = some k → p.messages[b]? = some [k] →
    ∃ a message, b = a + 1 ∧ p.messages[a]? = some message ∧
      (f ∈ message ∨ ∀ g ∈ message, (p.task? g).any Dialog.awaitsChallenge = false)

namespace Scan

variable {tasks : List Task} {m : Method} {medium : Nat → String}

/-- In a group, a second step comes right behind its first step or behind another second step. -/
theorem follows_group {n a b i j : Nat} {message : Message} (hids : ∀ id ∈ message, id < n)
    (h : (group n message a b)[i]? = some [secondNumber n j]) :
    ∃ i' x, i = i' + 1 ∧ (group n message a b)[i']? = some x ∧
      (firstNumber n j ∈ x ∨ ∃ j', x = [secondNumber n j']) := by
  have hrange := (secondNumber_mem_group hids (List.mem_of_getElem? h)
    (List.mem_singleton.mpr rfl)).1
  have hfirst : firstNumber n j ∈ message ++ (List.range' a (b - a)).map (firstNumber n) := by
    refine List.mem_append_right _ (List.mem_map.mpr ⟨j, ?_, rfl⟩)
    rw [List.mem_range'_1]
    omega
  cases i with
  | zero =>
    -- the message with the first steps is none with a second step only
    have hmessage : message ++ (List.range' a (b - a)).map (firstNumber n) =
        [secondNumber n j] := by
      simpa [group] using h
    rw [hmessage] at hfirst
    exact absurd (List.mem_singleton.mp hfirst) (firstNumber_ne_secondNumber n j j)
  | succ i =>
    obtain ⟨hi, -⟩ := List.getElem?_eq_some_iff.mp h
    refine ⟨i, _, rfl, List.getElem?_eq_getElem (Nat.lt_of_succ_lt hi), ?_⟩
    rcases mem_group.mp (List.getElem_mem (Nat.lt_of_succ_lt hi)) with heq | ⟨j', -, heq⟩
    · rw [heq]
      exact .inl hfirst
    · exact .inr ⟨j', heq⟩

/-- The same holds in a whole layout. -/
theorem follows_layout {messages : List Message}
    (hids : ∀ message ∈ messages, ∀ id ∈ message, id < tasks.length) {s : Scan} {i j : Nat}
    (h : (layout tasks messages s)[i]? = some [secondNumber tasks.length j]) :
    ∃ i' x, i = i' + 1 ∧ (layout tasks messages s)[i']? = some x ∧
      (firstNumber tasks.length j ∈ x ∨ ∃ j', x = [secondNumber tasks.length j']) := by
  induction messages generalizing s i with
  | nil => simp [layout] at h
  | cons message messages ih =>
    simp only [layout] at h ⊢
    generalize hgroup : group tasks.length message s.found.length
      (s.visitAll tasks message).found.length = g at h ⊢
    by_cases hi : i < g.length
    · rw [List.getElem?_append_left hi, ← hgroup] at h
      obtain ⟨i', x, rfl, hx, hfollows⟩ := follows_group (hids message (by simp)) h
      rw [hgroup] at hx
      exact ⟨i', x, rfl, by rwa [List.getElem?_append_left (Nat.lt_of_succ_lt hi)], hfollows⟩
    · -- behind the group the rest of the layout begins with a message of the queue
      rw [List.getElem?_append_right (Nat.le_of_not_lt hi)] at h
      obtain ⟨i', x, hi', hx, hfollows⟩ := ih (fun m hm => hids m (by simp [hm])) h
      refine ⟨g.length + i', x, by omega, ?_, hfollows⟩
      rwa [List.getElem?_append_right (Nat.le_add_right _ _), Nat.add_sub_cancel_left]

/-- A second step is in a message of its own. -/
theorem alone_layout {messages : List Message}
    (hids : ∀ message ∈ messages, ∀ id ∈ message, id < tasks.length) {s : Scan} {x : Message}
    (hx : x ∈ layout tasks messages s) {j : Nat} (hj : secondNumber tasks.length j ∈ x) :
    x = [secondNumber tasks.length j] := by
  induction messages generalizing s with
  | nil => cases hx
  | cons message messages ih =>
    rcases List.mem_append.mp hx with hx | hx
    · exact (secondNumber_mem_group (hids message (by simp)) hx hj).2
    · exact ih (fun m hm => hids m (by simp [hm])) hx

/-- Only first steps await a challenge in the arena of business tasks. -/
theorem awaitsChallenge_arena (hbusiness : ∀ t ∈ tasks, t.kind = .business) (s : Scan) {f : TaskId}
    (h : ((s.arena tasks m medium)[f]?).any Dialog.awaitsChallenge) :
    ∃ j < s.found.length, f = firstNumber tasks.length j := by
  rcases number_cases tasks.length f with hf | ⟨j, rfl⟩ | ⟨j, rfl⟩
  · have hrequest : ((s.arena tasks m medium)[f]?).bind Task.tanRequest? = none :=
      tanRequest?_arena_of_lt hbusiness s hf
    obtain ⟨t, ht, hawaits⟩ := (Option.any_eq_true _ _).mp h
    rw [ht, Option.bind_some] at hrequest
    simp [Dialog.awaitsChallenge, hrequest] at hawaits
  · rw [getElem?_arena_secondNumber] at h
    cases he : s.found[j]? <;> simp [he, Dialog.awaitsChallenge, Task.tanRequest?] at h
  · rw [getElem?_arena_firstNumber] at h
    cases he : s.found[j]? with
    | none => simp [he] at h
    | some e => exact ⟨j, (List.getElem?_eq_some_iff.mp he).1, rfl⟩

end Scan

namespace Passport

/-- A queue `q` of business tasks is patched under a two-step method of variant two, which makes `p`
of it. -/
structure PatchesSteps (app : Application) (id : String) (q p : MessageQueue)
    (s s' : Session) : Prop where
  business : ∀ t ∈ q.tasks, t.kind = .business
  /-- The messages name only tasks of the queue. -/
  named : ∀ message ∈ q.messages, ∀ i ∈ message, i < q.tasks.length
  method : ∃ t m, exec (currentMethod app false) s = (.ok id, t) ∧
    t.passport.catalog.get? id = some m ∧ m.variant = .two
  twoStep : id ≠ Method.oneStepId
  patched : perform (patch app q) s = ((.ok (), p), s')

namespace PatchesSteps

variable {app : Application} {id : String} {q p : MessageQueue} {s s' : Session}

/-- Patching puts the steps in place. -/
theorem inSteps (h : PatchesSteps app id q p s s') : InSteps p := by
  have hready := ready_of_patch h.business h.named h.patched
  obtain ⟨t, m, hid, hm, hv⟩ := h.method
  have hpatch := h.patched
  rw [patch_variant_two hid h.twoStep hm hv h.named] at hpatch
  obtain rfl := (Prod.mk.inj (Prod.mk.inj hpatch).1).2
  refine ⟨hready, fun f hf => ?_, fun f k message hk hmessage hmem => ?_, fun f k b hk hb => ?_⟩
  · obtain ⟨j, hj, rfl⟩ := Scan.awaitsChallenge_arena h.business _ hf
    exact ⟨_, (Scan.secondStep?_arena h.business _ _).mpr ⟨j, hj, rfl, rfl⟩⟩
  · obtain ⟨j, -, -, rfl⟩ := (Scan.secondStep?_arena h.business _ _).mp hk
    exact Scan.alone_layout h.named hmessage hmem
  · obtain ⟨j, -, rfl, rfl⟩ := (Scan.secondStep?_arena h.business _ _).mp hk
    obtain ⟨a, message, hab, hmessage, hfirst | ⟨j', rfl⟩⟩ := Scan.follows_layout h.named hb
    · exact ⟨a, message, hab, hmessage, .inl hfirst⟩
    · refine ⟨a, _, hab, hmessage, .inr fun g hg => ?_⟩
      rw [List.mem_singleton.mp hg, MessageQueue.task?, Scan.getElem?_arena_secondNumber]
      cases (Scan.scanOf q t.passport).found[j']? <;> rfl

/-- The method is in use from then on, and the credentials are as they were. -/
theorem passport (h : PatchesSteps app id q p s s') :
    s'.passport.current = some id ∧ s'.passport.anonymous = s.passport.anonymous := by
  obtain ⟨t, m, hid, hm, hv⟩ := h.method
  have hpatch := h.patched
  rw [patch_variant_two hid h.twoStep hm hv h.named] at hpatch
  obtain rfl := (Prod.mk.inj hpatch).2
  obtain ⟨auto, ht⟩ := exec_currentMethod_ok hid
  obtain ⟨verify, hscan⟩ : GoesOnFrom t.passport (Scan.scanOf q t.passport) :=
    GoesOnFrom.visitAll q.tasks ⟨t.passport.verifyTanMode, rfl⟩ q.messages.flatten
  have hsession : (sessionAt m t (Scan.scanOf q t.passport)).passport =
      { t.passport with verifyTanMode := verify } := hscan
  rw [hsession, ht]
  exact ⟨rfl, rfl⟩

end PatchesSteps

/-! ### A sample queue -/

/-- Two transfers in one message. -/
def transferPair : MessageQueue where
  tasks :=
    [{ code := "HKCCS", version := 1, externalId := some "first" },
      { code := "HKCCS", version := 1, externalId := some "second" }]
  messages := [[0, 1]]

/-- The queue after patching: the message has both first steps, and the second steps follow. -/
def patchedPair : MessageQueue where
  tasks :=
    [{ code := "HKCCS", version := 1, externalId := some "first", tanApplied := true },
      { code := "HKCCS", version := 1, externalId := some "second", tanApplied := true },
      .ofRequest 6 (some "first") { process := .submitTan, task := some 0 },
      .ofRequest 6 (some "first")
        { process := .submitOrder, orderSegmentCode := "HKCCS", step2 := some 2 },
      .ofRequest 6 (some "second") { process := .submitTan, task := some 1 },
      .ofRequest 6 (some "second")
        { process := .submitOrder, orderSegmentCode := "HKCCS", step2 := some 4 }]
  messages := [[0, 1, 3, 5], [4], [2]]

/-- Patching this queue, whatever the user answers. -/
theorem patchesSteps_transferPair (answer : String) :
    ∃ s, PatchesSteps (steadyApplication answer) "921" transferPair patchedPair
      { passport := pushPassport } s := by
  have hqueue : (perform (patch (steadyApplication answer) transferPair)
      { passport := pushPassport }).1 = (.ok (), patchedPair) := rfl
  exact ⟨_, by decide, by decide, ⟨_, pushMethod, rfl, rfl, rfl⟩, by decide,
    Prod.ext hqueue rfl⟩

end Passport

end TanDialog
