import TanDialog.Proofs.Dialog.Exchange
import TanDialog.Proofs.Evolution
import TanDialog.Proofs.Patch.Ready

/-!
# Runs that send a queue

A run that sends a queue and comes to a result has patched the queue, and then sent it message by
message (`sends_of_sendMessages`). As a patched queue of business tasks is ready, all that is known
of such sendings holds of the run (`sendJobs_ok`).
-/

namespace TanDialog

/-! ### Replies -/

namespace Challenge

/-- A response is stored once. -/
theorem storeResponse_storeResponse (c : Challenge) (response : PropertySet) :
    (c.storeResponse response).storeResponse response = c.storeResponse response := by
  have hupdate (old new : Option String) : update (update old new) new = update old new := by
    simp only [update]
    cases new.filter (!·.isEmpty) <;> rfl
  simp only [storeResponse, store, hupdate]

theorem storeResponse_of_isEmpty (c : Challenge) {response : PropertySet}
    (h : response.isEmpty) : c.storeResponse response = c := by
  have hentries : response.entries = [] := List.isEmpty_iff.mp h
  have hget (path : String) : response.get? path = none := by
    rw [Dictionary.get?, hentries]
    rfl
  simp only [storeResponse, store, hget]
  rfl

end Challenge

/-- The session when a response has been taken in: it is stored if it is for some task. -/
def Session.storing (s : Session) (response : PropertySet) (ids : List TaskId) : Session :=
  if ids = [] then s
  else
    { s with
      passport := { s.passport with challenge := s.passport.challenge.storeResponse response } }

theorem Session.evolves_storing (app : Application) (s : Session) (response : PropertySet)
    (ids : List TaskId) : s.Evolves app (s.storing response ids) := by
  rw [storing]
  split
  · exact .refl
  · exact .single (.storeResponse response)

namespace Dialog

variable {parties : Parties}

/-- A response that is for several tasks is stored for each of them, which changes nothing after the
first time. -/
theorem exec_distribute (response : PropertySet) (ids : List TaskId) (q : MessageQueue)
    (n : Connection) :
    exec (distribute response ids q) n =
      (.ok (q.forwardAll ((response.get? "orderref").getD "") ids),
        { n with session := n.session.storing response ids }) := by
  induction ids generalizing q n with
  | nil => rfl
  | cons id ids ih =>
    simp only [distribute, exec_bind, exec_liftEffect, Session.perform_modifyPassport, ih,
      Session.storing, Challenge.storeResponse_storeResponse, ite_self, List.cons_ne_nil, if_false]
    rfl

/-- Taking in a reply changes the queue as `settle` says, and of the connection only the session, in
which the response is stored. -/
theorem exec_takeReply (status : ReplyStatus) (message : Message) (q : MessageQueue)
    (n : Connection) :
    exec (takeReply status (q.tasksOf message) q) n =
      (.ok (settle q message status.data),
        { n with
          session := n.session.storing (status.data.find Passport.responseQuery)
            (awaiting q message) }) := by
  rw [takeReply, settle]
  by_cases he : (status.data.find Passport.responseQuery).isEmpty
  · rw [if_pos he, if_pos he, Session.storing, Challenge.storeResponse_of_isEmpty _ he, ite_self]
    rfl
  · rw [if_neg he, if_neg he]
    exact exec_distribute _ _ _ _

/-! ### Runs -/

/-- Messages that have all been answered were sent one after the other. -/
theorem sends_of_sendMessages {messages : List Message} {q q' : MessageQueue} {c : Context}
    {replies : List ReplyStatus} {n n' : Connection}
    (h : exec (sendMessages parties messages q c) n = (.ok (q', replies), n')) :
    ∃ xs, Sends messages q xs q' ∧ replies = xs.map (fun x => .ofData x.reply) ∧
      n'.events = xs.reverse.flatMap Sending.events ++ n.events := by
  induction messages generalizing q c n replies with
  | nil =>
    obtain ⟨hq, rfl⟩ := Prod.mk.inj h
    obtain ⟨rfl, rfl⟩ := Prod.mk.inj (Except.ok.inj hq)
    exact ⟨[], .nil q, rfl, rfl⟩
  | cons message messages ih =>
    simp only [sendMessages, exec_bind_ok] at h
    obtain ⟨status, n₁, hexchange, q₁, n₂, htake, c₁, n₃, hfire, ⟨q₂, replies₂⟩, n₄, hrest, h⟩ := h
    obtain ⟨hq, rfl⟩ := Prod.mk.inj h
    obtain ⟨rfl, rfl⟩ := Prod.mk.inj (Except.ok.inj hq)
    obtain ⟨bytes, sig, s, reply, -, -, -, rfl, rfl⟩ := exec_exchange_ok.mp hexchange
    rw [exec_takeReply] at htake
    obtain ⟨hq₁, rfl⟩ := Prod.mk.inj htake
    obtain rfl := Except.ok.inj hq₁
    obtain ⟨s₂, -, rfl⟩ := exec_fire_ok.mp hfire
    obtain ⟨xs, hsends, rfl, hevents⟩ := ih hrest
    refine ⟨⟨(q.tasksOf message).map Prod.snd, bytes, sig, reply⟩ :: xs, .cons rfl hsends, rfl, ?_⟩
    rw [hevents]
    simp [afterReply, Sending.events]

/-- When tasks have been queued, the queue is patched. -/
theorem exec_fire_jobsCreated_ok {q : MessageQueue} {c : Context} {n n' : Connection}
    (h : exec (fire parties .jobsCreated (.ofQueue q)) n = (.ok c, n')) :
    ∃ p s, perform (Passport.patch parties.application q) n.session = ((.ok (), p), s) ∧
      c = { Context.ofQueue q with queue := some p } ∧ n' = { n with session := s } := by
  obtain ⟨s, hhandle, rfl⟩ := exec_fire_ok.mp h
  simp only [Passport.handle, Context.ofQueue, perform_bind, perform_pure, Prod.mk.injEq]
    at hhandle
  obtain ⟨⟨hok, rfl⟩, hs⟩ := hhandle
  exact ⟨_, s, Prod.ext (Prod.ext hok rfl) hs, rfl, rfl⟩

/-- A run that sends a queue starts by patching it. -/
theorem exec_sendJobs_ok {q q' : MessageQueue} {replies : List ReplyStatus} {n n' : Connection}
    (h : exec (sendJobs parties q) n = (.ok (q', replies), n')) :
    ∃ p s c, perform (Passport.patch parties.application q) n.session = ((.ok (), p), s) ∧
      exec (sendMessages parties p.messages p c) { n with session := s } =
        (.ok (q', replies), n') := by
  simp only [sendJobs, exec_bind_ok] at h
  obtain ⟨c, _, hfire, hsend⟩ := h
  obtain ⟨p, s, hpatch, rfl, rfl⟩ := exec_fire_jobsCreated_ok hfire
  exact ⟨p, s, _, hpatch, hsend⟩

/-- A run that sends a queue of business tasks and comes to a result. It has patched the queue, had
one request encoded and sent for each message of the patched queue, and answers with the status of
each reply. Of the tasks it has changed nothing but references, and every second step was sent, and
came back, with the reference from the reply to its first step. -/
theorem sendJobs_ok {q q' : MessageQueue} {replies : List ReplyStatus} {n n' : Connection}
    (hbusiness : ∀ t ∈ q.tasks, t.kind = .business)
    (hq : ∀ message ∈ q.messages, ∀ i ∈ message, i < q.tasks.length)
    (h : exec (sendJobs parties q) n = (.ok (q', replies), n')) :
    ∃ p s xs, perform (Passport.patch parties.application q) n.session = ((.ok (), p), s) ∧
      n'.events = xs.reverse.flatMap Sending.events ++ n.events ∧
      replies = xs.map (fun x => .ofData x.reply) ∧ Sent p q' xs := by
  obtain ⟨p, s, c, hpatch, hsend⟩ := exec_sendJobs_ok h
  obtain ⟨xs, hsends, hreplies, hevents⟩ := sends_of_sendMessages hsend
  exact ⟨p, s, xs, hpatch, hevents, hreplies,
    hsends.sent (Passport.ready_of_patch hbusiness hq hpatch)⟩

/-- A reply with an order reference. -/
def orderReply : PropertySet := .ofList [("TAN2StepRes6.orderref", "R1")]

/-- A user with the PIN `12345`, and a bank that gives the same order reference in every reply. -/
def orderingParties : Parties := steadyParties "12345" orderReply

/-- The connection of a passport before its first message. -/
def pushConnection : Connection where
  session := { passport := Passport.pushPassport }

/-- The queue with a transfer, as it comes back: both second steps have the reference. -/
def sentTransferQueue : MessageQueue where
  tasks :=
    [{ code := "HKCCS", version := 1, externalId := some "transfer", tanApplied := true },
      { code := "HKIDN", version := 2, tanApplied := true },
      { code := "HKIDN", version := 2 },
      .ofRequest 6 (some "transfer") { process := .submitTan, task := some 0, orderRef := "R1" },
      .ofRequest 6 (some "transfer")
        { process := .submitOrder, orderSegmentCode := "HKCCS", step2 := some 3 },
      .ofRequest 6 none { process := .submitTan, task := some 1, orderRef := "R1" },
      .ofRequest 6 none { process := .submitOrder, orderSegmentCode := "HKIDN", step2 := some 5 }]
  messages := [[0, 1, 0, 4, 6], [5], [3], [2]]

theorem sendJobs_transferQueue :
    ∃ p s xs n',
      exec (sendJobs orderingParties Passport.transferQueue) pushConnection =
        (.ok (sentTransferQueue, List.replicate 4 (.ofData orderReply)), n') ∧
      perform (Passport.patch orderingParties.application Passport.transferQueue)
        pushConnection.session = ((.ok (), p), s) ∧
      n'.events = xs.reverse.flatMap Sending.events ++ [] ∧ Sent p sentTransferQueue xs := by
  have hresult : (exec (sendJobs orderingParties Passport.transferQueue) pushConnection).1 =
      .ok (sentTransferQueue, List.replicate 4 (.ofData orderReply)) := by
    decide +kernel
  have hrun : exec (sendJobs orderingParties Passport.transferQueue) pushConnection =
      (.ok (sentTransferQueue, List.replicate 4 (.ofData orderReply)),
        (exec (sendJobs orderingParties Passport.transferQueue) pushConnection).2) := by
    rw [← hresult]
  obtain ⟨p, s, xs, hpatch, hevents, -, hsent⟩ := sendJobs_ok (by decide) (by decide) hrun
  exact ⟨p, s, xs, _, hrun, hpatch, hevents, hsent⟩

end Dialog

end TanDialog
