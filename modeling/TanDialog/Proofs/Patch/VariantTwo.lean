import TanDialog.Proofs.Operations
import TanDialog.Proofs.Patch.Scan

/-!
# Patching under variant two

Patching a queue for a method of variant two follows a scan of its tasks (`Scan`). One task is
patched as the scan visits it (`exec_patchTask`), and from that messages and whole queues are.
Between two tasks the arena and the session are determined by the scan alone: the tasks found, with
their requests, and as many questions for the TAN medium as there are tasks found.
-/

namespace TanDialog.Passport

open Scan

/-- The calls made before the task that is found as the one with index `j`: those of the beginning,
and the questions for the media of the tasks found earlier. -/
def callsBefore (m : Method) (s : Session) (j : Nat) : List Call :=
  (List.replicate j (mediumCalls s.passport m.version m)).flatten ++ s.calls

theorem callsBefore_succ (m : Method) (s : Session) (j : Nat) :
    callsBefore m s (j + 1) = mediumCalls s.passport m.version m ++ callsBefore m s j := by
  simp [callsBefore, List.replicate_succ]

/-- The medium for the task that is found as the one with index `j`. -/
def mediumOf (app : Application) (m : Method) (s : Session) (j : Nat) : String :=
  medium app { s with calls := callsBefore m s j } m.version m

/-- The session in which a scan of the tasks has got to a point. -/
def sessionAt (m : Method) (s : Session) (scan : Scan) : Session where
  passport := scan.passport
  calls := callsBefore m s scan.found.length

/-- The additions to a message whose tasks are found with the indices from `a` up to `b`. -/
def additionsFor (n a b : Nat) : Additions where
  before := []
  appended := (List.range' a (b - a)).map (firstNumber n)
  after := (List.range' a (b - a)).reverse.map fun j => [secondNumber n j]

theorem additionsFor_self (n a : Nat) : additionsFor n a a = {} := by
  simp [additionsFor]

theorem around_additionsFor (n a b : Nat) (message : Message) :
    (additionsFor n a b).around message = group n message a b := by
  simp [additionsFor, Additions.around, group]

/-- The additions for one more task found. -/
theorem additionsFor_succ {a b : Nat} (n : Nat) (h : a ≤ b) :
    additionsFor n a (b + 1) =
      { additionsFor n a b with
        appended := (additionsFor n a b).appended ++ [firstNumber n b]
        after := [secondNumber n b] :: (additionsFor n a b).after } := by
  have hrange : List.range' a (b + 1 - a) = List.range' a (b - a) ++ [b] := by
    rw [Nat.succ_sub h, List.range'_1_concat, Nat.add_sub_cancel' h]
  simp [additionsFor, hrange]

section

variable {app : Application} {m : Method} {s : Session} {tasks : List Task}

/-- Adding the requests for a task of variant two. -/
theorem exec_addRequests_two (hv : m.variant = .two) (id : TaskId) (t : Task) {p : Passport}
    (hp : p.offeredTanMedia = s.passport.offeredTanMedia) {n a k : Nat} (ha : a ≤ k)
    {arena : List Task} (hn : arena.length = secondNumber n k) :
    exec (addRequests app m id t ⟨arena, additionsFor n a k⟩) ⟨p, callsBefore m s k⟩ =
      (.ok ⟨arena ++ requestPair m (mediumOf app m s k) (secondNumber n k) id t,
          additionsFor n a (k + 1)⟩,
        ⟨p, callsBefore m s (k + 1)⟩) := by
  have hcalls : mediumCalls p m.version m = mediumCalls s.passport m.version m := by
    simp only [mediumCalls, hp]
  have hmedium : medium app ⟨p, callsBefore m s k⟩ m.version m = mediumOf app m s k := by
    simp only [mediumOf, medium, hp]
  rw [addRequests]
  rw [hv]
  simp only [exec_bind, exec_lift, perform_tanMedia, exec_pure, hcalls, hmedium, hn,
    additionsFor_succ n ha, callsBefore_succ]
  rfl

/-- The task that is pending in a scan is the one that patching finds in the arena. -/
theorem getElem?_arena {scan : Scan} {medium : Nat → String} {id : TaskId}
    (hid : id < tasks.length) :
    (scan.arena tasks m medium)[id]?.filter (!·.tanApplied) = scan.pending? tasks id := by
  rw [arena, getElem?_marked_append tasks scan hid]

/-- Patching for a task is a visit of the scan. -/
theorem exec_patchTask (hv : m.variant = .two) {scan : Scan} {id : TaskId}
    (hid : id < tasks.length)
    (hp : scan.passport.offeredTanMedia = s.passport.offeredTanMedia) {a : Nat}
    (ha : a ≤ scan.found.length) :
    exec (patchTask app m id
        ⟨scan.arena tasks m (mediumOf app m s), additionsFor tasks.length a scan.found.length⟩)
        (sessionAt m s scan) =
      (.ok ⟨(scan.visit tasks id).arena tasks m (mediumOf app m s),
          additionsFor tasks.length a (scan.visit tasks id).found.length⟩,
        sessionAt m s (scan.visit tasks id)) := by
  unfold patchTask visit
  rw [getElem?_arena hid]
  cases ht : scan.pending? tasks id with
  | none => rfl
  | some t =>
    simp only [exec_bind, exec_lift, perform_lookUpRequirement, sessionAt, look]
    by_cases hr : scan.passport.requirement t.code = .required
    · have hl : (scan.passport.lookedUp t.code).offeredTanMedia = s.passport.offeredTanMedia := by
        rw [offeredTanMedia_lookedUp, hp]
      simp only [hr, if_true, exec_bind,
        exec_addRequests_two hv id t hl ha (length_arena tasks scan m _), exec_pure]
      rw [modify_arena tasks scan m _ hid t (scan.passport.lookedUp t.code)]
      simp
    · simp only [hr, if_false, exec_pure]
      rfl

variable (tasks) in
/-- A visit touches nothing of the passport but the verification. -/
theorem passport_visit (scan : Scan) (id : TaskId) :
    (scan.visit tasks id).passport =
      { scan.passport with verifyTanMode := (scan.visit tasks id).passport.verifyTanMode } := by
  rw [visit]
  split
  · rfl
  · exact lookedUp_eq _ _

/-- A scan that goes on from a passport has touched nothing of it but the verification. -/
def GoesOnFrom (p : Passport) (scan : Scan) : Prop :=
  ∃ verify, scan.passport = { p with verifyTanMode := verify }

variable (tasks) in
theorem GoesOnFrom.visit {p : Passport} {scan : Scan} (h : GoesOnFrom p scan) (id : TaskId) :
    GoesOnFrom p (scan.visit tasks id) := by
  obtain ⟨verify, hp⟩ := h
  exact ⟨_, (passport_visit tasks scan id).trans (by rw [hp])⟩

variable (tasks) in
theorem GoesOnFrom.visitAll {p : Passport} {scan : Scan} (h : GoesOnFrom p scan)
    (ids : List TaskId) : GoesOnFrom p (scan.visitAll tasks ids) := by
  induction ids generalizing scan with
  | nil => exact h
  | cons id ids ih => exact ih (h.visit tasks id)

variable (tasks) in
/-- A visit leaves the medium that is offered to the user. -/
theorem offeredTanMedia_visit (scan : Scan) (id : TaskId) :
    (scan.visit tasks id).passport.offeredTanMedia = scan.passport.offeredTanMedia := by
  rw [passport_visit]
  rfl

variable (tasks) in
theorem offeredTanMedia_visitAll (scan : Scan) (ids : List TaskId) :
    (scan.visitAll tasks ids).passport.offeredTanMedia = scan.passport.offeredTanMedia := by
  obtain ⟨verify, hp⟩ := GoesOnFrom.visitAll tasks ⟨scan.passport.verifyTanMode, rfl⟩ ids
  rw [hp]
  rfl

variable (app) in
/-- Patching for the tasks of a message is a visit of all of them. -/
theorem perform_patchTasks (hv : m.variant = .two) {ids : List TaskId}
    (hids : ∀ id ∈ ids, id < tasks.length) {scan : Scan}
    (hp : scan.passport.offeredTanMedia = s.passport.offeredTanMedia) {a : Nat}
    (ha : a ≤ scan.found.length) :
    perform (patchTasks app m ids
        ⟨scan.arena tasks m (mediumOf app m s), additionsFor tasks.length a scan.found.length⟩)
        (sessionAt m s scan) =
      ((.ok (), ⟨(scan.visitAll tasks ids).arena tasks m (mediumOf app m s),
          additionsFor tasks.length a (scan.visitAll tasks ids).found.length⟩),
        sessionAt m s (scan.visitAll tasks ids)) := by
  induction ids generalizing scan with
  | nil => rfl
  | cons id ids ih =>
    have hid : id < tasks.length := hids id (by simp)
    simp only [patchTasks, perform_bind, perform_run, exec_patchTask hv hid hp ha]
    exact ih (fun i hi => hids i (by simp [hi])) ((offeredTanMedia_visit tasks scan id).trans hp)
      (Nat.le_trans ha (length_found_visit scan id))

variable (app) in
/-- Patching messages gives them the layout of the scan. -/
theorem perform_patchMessages (hv : m.variant = .two) {messages : List Message}
    (hids : ∀ message ∈ messages, ∀ id ∈ message, id < tasks.length) (scan : Scan)
    (hp : scan.passport.offeredTanMedia = s.passport.offeredTanMedia) :
    perform (patchMessages app m messages (scan.arena tasks m (mediumOf app m s)))
        (sessionAt m s scan) =
      ((.ok (), ⟨(scan.visitAll tasks messages.flatten).arena tasks m (mediumOf app m s),
          layout tasks messages scan⟩),
        sessionAt m s (scan.visitAll tasks messages.flatten)) := by
  induction messages generalizing scan with
  | nil => rfl
  | cons message messages ih =>
    have hmessage := perform_patchTasks app hv (hids message (by simp)) hp
      (Nat.le_refl scan.found.length)
    rw [additionsFor_self] at hmessage
    have hrest := ih (fun message' h => hids message' (by simp [h])) _
      ((offeredTanMedia_visitAll tasks scan message).trans hp)
    simp only [patchMessages, perform_bind, hmessage, hrest, perform_pure, around_additionsFor,
      List.flatten_cons, visitAll_append]
    rfl

end

theorem sessionAt_start (m : Method) (s : Session) : sessionAt m s ⟨s.passport, []⟩ = s := rfl

/-- The method in use is the one to patch for, if it is a two-step method of the catalog. -/
theorem exec_patchMethod {app : Application} {s s' : Session} {id : String} {m : Method}
    (hid : exec (currentMethod app false) s = (.ok id, s')) (htwo : id ≠ Method.oneStepId)
    (hm : s'.passport.catalog.get? id = some m) :
    exec (patchMethod app) s = (.ok (some m), s') := by
  simp only [patchMethod, exec_bind, hid, if_neg htwo, exec_lift, Session.perform_getPassport, hm,
    exec_pure]

/-- Patching a queue from a session in which the method to patch for is known. -/
theorem perform_patch_two {app : Application} {q : MessageQueue} {s s' : Session} {m : Method}
    (hm : exec (patchMethod app) s = (.ok (some m), s')) (hv : m.variant = .two)
    (hq : ∀ message ∈ q.messages, ∀ i ∈ message, i < q.tasks.length) :
    perform (patch app q) s =
      ((.ok (), { tasks := (scanOf q s'.passport).arena q.tasks m (mediumOf app m s')
                  messages := layout q.tasks q.messages ⟨s'.passport, []⟩ }),
        sessionAt m s' (scanOf q s'.passport)) := by
  have hmessages := perform_patchMessages app (s := s') hv hq ⟨s'.passport, []⟩ rfl
  rw [arena_start, sessionAt_start] at hmessages
  simp only [patch, perform_bind, perform_run, hm]
  exact hmessages

/-- Patching with a method of variant two. Every queue whose messages name only its own tasks is
patched, as the scan of its tasks tells that starts when the method is known: every task found is
marked and has two requests behind the tasks of the queue, every message gets the first steps for
the tasks that are found in it, and the second steps follow it in messages of their own. -/
theorem patch_variant_two {app : Application} {q : MessageQueue} {s s' : Session} {id : String}
    {m : Method} (hid : exec (currentMethod app false) s = (.ok id, s'))
    (htwo : id ≠ Method.oneStepId) (hm : s'.passport.catalog.get? id = some m)
    (hv : m.variant = .two) (hq : ∀ message ∈ q.messages, ∀ i ∈ message, i < q.tasks.length) :
    perform (patch app q) s =
      ((.ok (), { tasks := (scanOf q s'.passport).arena q.tasks m (mediumOf app m s')
                  messages := layout q.tasks q.messages ⟨s'.passport, []⟩ }),
        sessionAt m s' (scanOf q s'.passport)) :=
  perform_patch_two (exec_patchMethod hid htwo hm) hv hq

/-! ### A sample queue -/

/-- A method of variant two. -/
def pushMethod : Method := ⟨"921", 6, .ofList [("name", "pushTAN"), ("process", "2")]⟩

/-- A passport that uses this method, which is still to be verified, with a bank that wants a TAN
for transfers. -/
def pushPassport : Passport where
  config := {}
  verifyTanMode := true
  bpd := some <| .ofList
    [("Params_1.PinTanPar1.ParPinTan.PinTanGV.segcode", "HKCCS"),
      ("Params_1.PinTanPar1.ParPinTan.PinTanGV.needtan", "J")]
  catalog := .ofList [("921", pushMethod)]
  current := some "921"

/-- A transfer that is queued twice in one message, and two messages that identify the user. -/
def transferQueue : MessageQueue where
  tasks :=
    [{ code := "HKCCS", version := 1, externalId := some "transfer" },
      { code := "HKIDN", version := 2 }, { code := "HKIDN", version := 2 }]
  messages := [[0, 1, 0], [2]]

/-- The transfer gets its requests once, and only the first identification is verified. -/
theorem patch_transferQueue :
    (perform (patch (steadyApplication "") transferQueue) { passport := pushPassport }).1 =
      (.ok (),
        { tasks :=
            [{ code := "HKCCS", version := 1, externalId := some "transfer", tanApplied := true },
              { code := "HKIDN", version := 2, tanApplied := true },
              { code := "HKIDN", version := 2 }] ++
            requestPair pushMethod "" 3 0
              { code := "HKCCS", version := 1, externalId := some "transfer" } ++
            requestPair pushMethod "" 5 1 { code := "HKIDN", version := 2 }
          messages := [[0, 1, 0, 4, 6], [5], [3], [2]] }) := by
  have hid : exec (currentMethod (steadyApplication "") false) { passport := pushPassport } =
      (.ok "921", { passport := pushPassport }) := rfl
  have hm : pushPassport.catalog.get? "921" = some pushMethod := rfl
  rw [patch_variant_two hid (by decide) hm rfl (by decide)]
  rfl

end TanDialog.Passport
