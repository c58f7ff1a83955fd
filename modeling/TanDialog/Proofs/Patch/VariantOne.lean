import TanDialog.Proofs.Patch.Announcement
import TanDialog.Proofs.Patch.VariantTwo

/-!
# Patching under variant one

Patching a queue for a method of variant one follows the same scan of its tasks (`Scan`) as for
variant two. The task found as the one with index `j` gets a single request, which stands behind
the tasks of the queue with the number `n + j` and announces it (`Announced`). The requests for a
message go ahead of it, each in a message of its own (`Scan.announcedGroup`), so that every message
of the queue stays as it is.

In contrast to variant two, patching may fail here, at the first task found that cannot be
announced. What is said of a queue that has been patched (`patch_variant_one`) therefore comes from
the outcome.
-/

namespace TanDialog

namespace Scan

/-- A message in which the tasks with indices from `a` up to `b` are found, in a queue of `n` tasks:
in front of it there is a message for each of their requests. -/
def announcedGroup (n : Nat) (message : Message) (a b : Nat) : List Message :=
  ((List.range' a (b - a)).map fun j => [n + j]) ++ [message]

/-- The messages of a queue with the requests that announce its tasks, from a scan on. -/
def announcedLayout (tasks : List Task) : List Message → Scan → List Message
  | [], _ => []
  | message :: messages, s =>
    let t := s.visitAll tasks message
    announcedGroup tasks.length message s.found.length t.found.length ++
      announcedLayout tasks messages t

end Scan

namespace Passport

open Scan

variable {app : Application} {m : Method} {s : Session} {tasks : List Task}
  {found : List (TaskId × Task)} {requests : List Task}

/-- The calls made while some tasks are announced, one after the other. -/
def callsAnnouncing (app : Application) (m : Method) (s : Session)
    (found : List (TaskId × Task)) : List Call :=
  (found.reverse.flatMap fun e => announcementCalls app m s.passport e.2) ++ s.calls

theorem callsAnnouncing_concat (found : List (TaskId × Task)) (e : TaskId × Task) :
    callsAnnouncing app m s (found ++ [e]) =
      announcementCalls app m s.passport e.2 ++ callsAnnouncing app m s found := by
  simp [callsAnnouncing]

/-- Tasks that have been found are announced, one after the other, by requests. The medium of a
request is asked for when all tasks before have been announced. -/
inductive Announced (app : Application) (m : Method) (s : Session) :
    List (TaskId × Task) → List Task → Prop
  | nil : Announced app m s [] []
  | concat {found : List (TaskId × Task)} {requests : List Task} {e : TaskId × Task} {r : Task}
      (earlier : Announced app m s found requests)
      (announces : Announces app m s.passport.bpd
        (medium app { s with calls := callsAnnouncing app m s found } m.version m) e.2 r) :
      Announced app m s (found ++ [e]) (requests ++ [r])

theorem Announced.length_eq (h : Announced app m s found requests) :
    requests.length = found.length := by
  induction h with
  | nil => rfl
  | concat _ _ ih => simp [ih]

/-- The session in which a scan of the tasks has got to a point. -/
def announcingSession (app : Application) (m : Method) (s : Session) (scan : Scan) : Session where
  passport := scan.passport
  calls := callsAnnouncing app m s scan.found

/-- The patching of a message in which tasks are found from index `a` on. -/
def announcing (tasks : List Task) (scan : Scan) (requests : List Task) (a : Nat) : Patching where
  tasks := marked tasks (scan.found.map Prod.fst) ++ requests
  additions :=
    { before := (List.range' a (scan.found.length - a)).map fun j => [tasks.length + j] }

/-- One more task is announced. -/
theorem announcing_concat {scan : Scan} {a : Nat} (ha : a ≤ scan.found.length) {id : TaskId}
    (hid : id < tasks.length) (hlength : requests.length = scan.found.length) (p : Passport)
    (t r : Task) :
    ({ tasks := ((announcing tasks scan requests a).tasks ++ [r]).modify id
        ({ · with tanApplied := true })
       additions :=
        { (announcing tasks scan requests a).additions with
          before := (announcing tasks scan requests a).additions.before ++
            [[(announcing tasks scan requests a).tasks.length]] } } : Patching) =
      announcing tasks { passport := p, found := scan.found ++ [(id, t)] } (requests ++ [r]) a := by
  have hrange : List.range' a (scan.found.length + 1 - a) =
      List.range' a (scan.found.length - a) ++ [scan.found.length] := by
    rw [Nat.succ_sub ha, List.range'_1_concat, Nat.add_sub_cancel' ha]
  simp only [announcing, List.append_assoc, modify_marked_append tasks _ hid, List.map_append,
    List.length_append, length_marked, hlength, List.length_cons, List.length_nil, hrange,
    List.map_cons, List.map_nil]

/-- Patching for a task is a visit of the scan, if it does not fail. -/
theorem announced_of_exec_patchTask (hv : m.variant = .one) {id : TaskId} (hid : id < tasks.length)
    {scan : Scan} (hp : GoesOnFrom s.passport scan) {a : Nat}
    (ha : a ≤ scan.found.length) {b : Patching} {s' : Session}
    (hrequests : Announced app m s scan.found requests)
    (h : exec (patchTask app m id (announcing tasks scan requests a))
      (announcingSession app m s scan) = (.ok b, s')) :
    ∃ requests', Announced app m s (scan.visit tasks id).found requests' ∧
      b = announcing tasks (scan.visit tasks id) requests' a ∧
      s' = announcingSession app m s (scan.visit tasks id) := by
  have hpending : (announcing tasks scan requests a).tasks[id]?.filter (!·.tanApplied) =
      scan.pending? tasks id := getElem?_marked_append tasks scan hid requests
  unfold patchTask at h
  rw [hpending] at h
  rw [visit]
  cases ht : scan.pending? tasks id with
  | none =>
    rw [ht] at h
    obtain ⟨hb, rfl⟩ := Prod.mk.inj h
    exact ⟨requests, hrequests, (Except.ok.inj hb).symm, rfl⟩
  | some t =>
    obtain ⟨verify, hp⟩ := hp
    obtain ⟨verify', hlooked⟩ : ∃ verify', scan.passport.lookedUp t.code =
        { s.passport with verifyTanMode := verify' } :=
      ⟨_, by rw [lookedUp_eq, hp]⟩
    simp only [ht, exec_bind, exec_lift, perform_lookUpRequirement, announcingSession,
      hlooked] at h
    simp only [look, hlooked]
    by_cases hr : scan.passport.requirement t.code = .required
    · simp only [hr, if_true, exec_bind, exec_addRequests_one app hv] at h ⊢
      cases hcontent : orderContent app m s.passport.bpd t with
      | error e =>
        rw [hcontent] at h
        cases (Prod.mk.inj h).1
      | ok content =>
        rw [hcontent] at h
        obtain ⟨hb, rfl⟩ := Prod.mk.inj h
        refine ⟨_, .concat hrequests (announces_of_orderContent hcontent _), ?_, ?_⟩
        · rw [← Except.ok.inj hb, ← announcing_concat ha hid hrequests.length_eq]
          rfl
        · rw [announcingSession, callsAnnouncing_concat]
          rfl
    · simp only [hr, if_false, exec_pure] at h ⊢
      obtain ⟨hb, rfl⟩ := Prod.mk.inj h
      exact ⟨requests, hrequests, (Except.ok.inj hb).symm, rfl⟩

/-- Patching for the tasks of a message is a visit of all of them. -/
theorem announced_of_perform_patchTasks (hv : m.variant = .one) {ids : List TaskId}
    (hids : ∀ id ∈ ids, id < tasks.length) {scan : Scan} (hp : GoesOnFrom s.passport scan) {a : Nat}
    (ha : a ≤ scan.found.length) {b : Patching} {s' : Session}
    (hrequests : Announced app m s scan.found requests)
    (h : perform (patchTasks app m ids (announcing tasks scan requests a))
      (announcingSession app m s scan) = ((.ok (), b), s')) :
    ∃ requests', Announced app m s (scan.visitAll tasks ids).found requests' ∧
      b = announcing tasks (scan.visitAll tasks ids) requests' a ∧
      s' = announcingSession app m s (scan.visitAll tasks ids) := by
  induction ids generalizing scan requests with
  | nil =>
    obtain ⟨hb, rfl⟩ := Prod.mk.inj h
    exact ⟨requests, hrequests, (Prod.mk.inj hb).2.symm, rfl⟩
  | cons id ids ih =>
    simp only [patchTasks, perform_bind, perform_run] at h
    rcases hstep : exec (patchTask app m id (announcing tasks scan requests a))
      (announcingSession app m s scan) with ⟨_ | c, t⟩
    · simp [hstep] at h
    · obtain ⟨requests', hrequests', rfl, rfl⟩ :=
        announced_of_exec_patchTask hv (hids id (by simp)) hp ha hrequests hstep
      rw [hstep] at h
      exact ih (fun i hi => hids i (by simp [hi])) (hp.visit tasks id)
        (Nat.le_trans ha (length_found_visit scan id)) hrequests' h

theorem announcing_start (scan : Scan) (requests : List Task) :
    announcing tasks scan requests scan.found.length =
      { tasks := marked tasks (scan.found.map Prod.fst) ++ requests } := by
  simp [announcing]

theorem around_announcing (scan : Scan) (requests : List Task) (a : Nat) (message : Message) :
    (announcing tasks scan requests a).additions.around message =
      announcedGroup tasks.length message a scan.found.length := by
  simp [announcing, Additions.around, announcedGroup]

/-- Patching messages gives them the layout of the scan. -/
theorem announced_of_perform_patchMessages (hv : m.variant = .one) {messages : List Message}
    (hids : ∀ message ∈ messages, ∀ id ∈ message, id < tasks.length) {scan : Scan}
    (hp : GoesOnFrom s.passport scan) {p : MessageQueue} {s' : Session}
    (hrequests : Announced app m s scan.found requests)
    (h : perform (patchMessages app m messages
        (marked tasks (scan.found.map Prod.fst) ++ requests)) (announcingSession app m s scan) =
      ((.ok (), p), s')) :
    ∃ requests', Announced app m s (scan.visitAll tasks messages.flatten).found requests' ∧
      p.tasks =
        marked tasks ((scan.visitAll tasks messages.flatten).found.map Prod.fst) ++ requests' ∧
      p.messages = announcedLayout tasks messages scan ∧
      s' = announcingSession app m s (scan.visitAll tasks messages.flatten) := by
  induction messages generalizing scan requests p with
  | nil =>
    obtain ⟨hq, rfl⟩ := Prod.mk.inj h
    obtain ⟨-, rfl⟩ := Prod.mk.inj hq
    exact ⟨requests, hrequests, rfl, rfl, rfl⟩
  | cons message messages ih =>
    simp only [patchMessages, perform_bind, ← announcing_start] at h
    rcases hstep : perform (patchTasks app m message
        (announcing tasks scan requests scan.found.length)) (announcingSession app m s scan)
      with ⟨⟨_ | _, b⟩, t⟩
    · simp [hstep] at h
    · obtain ⟨requests₁, hrequests₁, rfl, rfl⟩ := announced_of_perform_patchTasks hv
        (hids message (by simp)) hp (Nat.le_refl _) hrequests hstep
      simp only [hstep, perform_bind, around_announcing] at h
      rcases hrest : perform (patchMessages app m messages
          (announcing tasks (scan.visitAll tasks message) requests₁ scan.found.length).tasks)
          (announcingSession app m s (scan.visitAll tasks message)) with ⟨⟨outcome, rest⟩, u⟩
      simp only [hrest, perform_pure, Prod.mk.injEq] at h
      obtain ⟨⟨rfl, rfl⟩, rfl⟩ := h
      obtain ⟨requests₂, hrequests₂, htasks, hmessages, hs'⟩ :=
        ih (fun message' hm => hids message' (by simp [hm])) (hp.visitAll tasks message)
          hrequests₁ hrest
      rw [List.flatten_cons, visitAll_append]
      exact ⟨requests₂, hrequests₂, htasks, by rw [announcedLayout, hmessages], hs'⟩

/-- Patching with a method of variant one. If a queue whose messages name only its own tasks is
patched without failure, then as the scan of its tasks tells that starts when the method is known:
every task found is marked, the requests that announce the tasks found stand behind the tasks of
the queue, and in front of every message there is a message for each task found in it, which holds
nothing but the request for that task. -/
theorem patch_variant_one {q p : MessageQueue} {s' s'' : Session} {id : String}
    (hid : exec (currentMethod app false) s = (.ok id, s')) (htwo : id ≠ Method.oneStepId)
    (hm : s'.passport.catalog.get? id = some m) (hv : m.variant = .one)
    (hq : ∀ message ∈ q.messages, ∀ i ∈ message, i < q.tasks.length)
    (h : perform (patch app q) s = ((.ok (), p), s'')) :
    ∃ requests, Announced app m s' (scanOf q s'.passport).found requests ∧
      p.tasks = marked q.tasks ((scanOf q s'.passport).found.map Prod.fst) ++ requests ∧
      p.messages = announcedLayout q.tasks q.messages ⟨s'.passport, []⟩ ∧
      s'' = announcingSession app m s' (scanOf q s'.passport) := by
  simp only [patch, perform_bind, perform_run, exec_patchMethod hid htwo hm] at h
  have hstart : marked q.tasks ((⟨s'.passport, []⟩ : Scan).found.map Prod.fst) ++ [] = q.tasks := by
    rw [List.append_nil]
    exact marked_nil q.tasks
  rw [← hstart] at h
  have hfresh : GoesOnFrom s'.passport ⟨s'.passport, []⟩ := ⟨s'.passport.verifyTanMode, rfl⟩
  exact announced_of_perform_patchMessages hv hq hfresh .nil h

/-! ### A sample queue -/

/-- A method of variant one that needs the account of the order. -/
def listMethod : Method :=
  ⟨"911", 5, .ofList [("name", "iTAN"), ("process", "1"), ("needorderaccount", "2")]⟩

/-- A passport that uses this method, which is still to be verified, with a bank that wants a TAN
for transfers and hashes orders. -/
def listPassport : Passport where
  config := {}
  verifyTanMode := true
  bpd := some <| .ofList
    [("Params_1.PinTanPar1.ParPinTan.PinTanGV.segcode", "HKCCS"),
      ("Params_1.PinTanPar1.ParPinTan.PinTanGV.needtan", "J"),
      ("Params_2.TAN2StepPar5.ParTAN2Step.orderhashmode", "2")]
  catalog := .ofList [("911", listMethod)]
  current := some "911"

/-- The requests for the transfer and for the identification. -/
theorem patch_transferQueue_announced :
    ∃ p s', perform (patch (steadyApplication "") transferQueue) { passport := listPassport } =
        ((.ok (), p), s') ∧
      p.messages = [[3], [4], [0, 1, 0], [2]] ∧
      ∃ requests,
        Announced (steadyApplication "") listMethod { passport := listPassport }
          [(0, { code := "HKCCS", version := 1, externalId := some "transfer" }),
            (1, { code := "HKIDN", version := 2 })] requests ∧
        p.tasks =
          [{ code := "HKCCS", version := 1, externalId := some "transfer", tanApplied := true },
            { code := "HKIDN", version := 2, tanApplied := true },
            { code := "HKIDN", version := 2 }] ++ requests := by
  have hid : exec (currentMethod (steadyApplication "") false) { passport := listPassport } =
      (.ok "911", { passport := listPassport }) := rfl
  have hm : listPassport.catalog.get? "911" = some listMethod := rfl
  have hok : (perform (patch (steadyApplication "") transferQueue)
      { passport := listPassport }).1.1 = .ok () := by
    decide +kernel
  rcases hrun : perform (patch (steadyApplication "") transferQueue) { passport := listPassport }
    with ⟨⟨_ | _, p⟩, s'⟩
  · rw [hrun] at hok
    cases hok
  · obtain ⟨requests, hrequests, htasks, hmessages, -⟩ :=
      patch_variant_one hid (by decide) hm rfl (by decide) hrun
    exact ⟨p, s', rfl, hmessages, requests, hrequests, htasks⟩

end Passport

end TanDialog
