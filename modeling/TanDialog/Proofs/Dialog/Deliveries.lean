import TanDialog.Proofs.Dialog.Series
import TanDialog.Proofs.Patch.Steps

/-!
# The deliveries of a queue

A queue is delivered message by message, and the exchange with a given index is the one for the
message with this index (`getElem?_sendingRounds`). What is known of sendings that have all been
answered (`Sends`) holds of the exchanges before any other one, whatever becomes of that, so that
also the requests of runs that fail later on are covered.
-/

namespace TanDialog

theorem InOrder.take {link : TaskId → Option TaskId} {messages : List Message}
    (h : InOrder link messages) (n : Nat) : InOrder link (messages.take n) where
  unique := h.unique
  within := fun message hm => h.within message (List.mem_of_mem_take hm)
  apart := h.apart.sublist (List.take_sublist n messages)

/-- A first step stands before its second step. -/
theorem InOrder.lt {link : TaskId → Option TaskId} {messages : List Message}
    (h : InOrder link messages) {a b : Nat} {x y : Message} {f k : TaskId}
    (hx : messages[a]? = some x) (hf : f ∈ x) (hlink : link f = some k)
    (hy : messages[b]? = some y) (hk : k ∈ y) : a < b := by
  obtain ⟨ha, rfl⟩ := List.getElem?_eq_some_iff.mp hx
  obtain ⟨hb, rfl⟩ := List.getElem?_eq_some_iff.mp hy
  rcases Nat.lt_trichotomy a b with hab | rfl | hab
  · exact hab
  · exact absurd hk (h.within _ (List.getElem_mem ha) f hf k hlink)
  · exact absurd hk (((List.pairwise_iff_getElem.mp h.apart) b a hb ha hab f k hlink).2 hf)

/-- A first step is in one message. -/
theorem InOrder.eq {link : TaskId → Option TaskId} {messages : List Message}
    (h : InOrder link messages) {a b : Nat} {x y : Message} {f k : TaskId}
    (hx : messages[a]? = some x) (hfx : f ∈ x) (hlink : link f = some k)
    (hy : messages[b]? = some y) (hfy : f ∈ y) : a = b := by
  obtain ⟨ha, rfl⟩ := List.getElem?_eq_some_iff.mp hx
  obtain ⟨hb, rfl⟩ := List.getElem?_eq_some_iff.mp hy
  have hapart := List.pairwise_iff_getElem.mp h.apart
  rcases Nat.lt_trichotomy a b with hab | rfl | hab
  · exact absurd hfy ((hapart a b ha hb hab f k hlink).1 hfx)
  · rfl
  · exact absurd hfx ((hapart b a hb ha hab f k hlink).1 hfy)

namespace Dialog

variable {parties : Parties} {message : Message} {messages : List Message}
  {p q q' : MessageQueue} {c c' : Context} {n n' : Connection} {status : ReplyStatus}

/-! ### A single delivery -/

/-- A message that is delivered has been exchanged, and its reply has been settled in the queue
before the passport reacts to it. -/
theorem exec_deliver_ok (h : exec (deliver parties message q c) n = (.ok (status, q', c'), n')) :
    ∃ reply n₁ s, (sendingRound message q n).result parties = (.ok (.ofData reply), n₁) ∧
      status = .ofData reply ∧ q' = settle q message reply ∧
      exec (takeReply status (q.tasksOf message) q) n₁ =
        (.ok q', { n₁ with session := s }) ∧
      exec (fire parties .messageSent { c with queue := some q', status := some status })
        { n₁ with session := s } = (.ok c', n') := by
  simp only [deliver, exec_bind_ok] at h
  obtain ⟨status₁, n₁, hexchange, q₁, n₂, htake, c₁, n₃, hfire, h⟩ := h
  obtain ⟨hresult, rfl⟩ := Prod.mk.inj h
  obtain ⟨rfl, hqueue⟩ := Prod.mk.inj (Except.ok.inj hresult)
  obtain ⟨rfl, rfl⟩ := Prod.mk.inj hqueue
  obtain ⟨-, -, -, reply, -, -, -, rfl, -⟩ := exec_exchange_ok.mp hexchange
  obtain ⟨hq₁, rfl⟩ := Prod.mk.inj (htake.symm.trans (exec_takeReply _ message q n₁))
  obtain rfl := Except.ok.inj hq₁
  exact ⟨reply, n₁, _, hexchange, rfl, rfl, htake, hfire⟩

/-! ### The exchanges of a queue -/

/-- The exchange with an index is for the message with this index, when all messages before have
been answered. -/
theorem getElem?_sendingRounds {b : Nat} {y : Round}
    (hy : (sendingRounds parties messages q c n)[b]? = some y) :
    ∃ message q' xs, messages[b]? = some message ∧ Sends (messages.take b) q xs q' ∧
      y = sendingRound message q' y.before ∧
      ∀ a < b, ∃ x z, (sendingRounds parties messages q c n)[a]? = some x ∧ xs[a]? = some z ∧
        (x.result parties).1 = .ok (.ofData z.reply) := by
  induction messages generalizing b q c n with
  | nil => simp [sendingRounds] at hy
  | cons message messages ih =>
    cases b with
    | zero =>
      obtain rfl : sendingRound message q n = y := by simpa [sendingRounds] using hy
      exact ⟨message, q, [], rfl, .nil q, rfl, fun a ha => absurd ha (Nat.not_lt_zero a)⟩
    | succ b =>
      simp only [sendingRounds, List.getElem?_cons_succ] at hy ⊢
      rcases hdeliver : exec (deliver parties message q c) n with ⟨e | ⟨status, q₁, c₁⟩, n₁⟩
      · simp [hdeliver] at hy
      · simp only [hdeliver] at hy
        obtain ⟨reply, n₂, s, hresult, -, rfl, -, -⟩ := exec_deliver_ok hdeliver
        obtain ⟨last, q', xs, hlast, hsends, hround, hearlier⟩ := ih hy
        -- what the queue becomes depends on the reply alone, not on the signed message
        refine ⟨last, q', ⟨(q.tasksOf message).map Prod.snd, [], "", reply⟩ :: xs, hlast,
          .cons rfl hsends, hround, fun a ha => ?_⟩
        cases a with
        | zero => exact ⟨_, _, rfl, rfl, by rw [hresult]⟩
        | succ a => exact hearlier a (Nat.lt_of_succ_lt_succ ha)

/-- A run that sends a queue makes the exchanges of the patched queue. -/
theorem commandRounds_sendJobs {s : Session}
    (h : perform (Passport.patch parties.application q) n.session = ((.ok (), p), s)) :
    commandRounds parties n (.sendJobs q) =
      sendingRounds parties p.messages p { Context.ofQueue q with queue := some p }
        { n with session := s } := by
  have hfire : exec (fire parties .jobsCreated (.ofQueue q)) n =
      (.ok { Context.ofQueue q with queue := some p }, { n with session := s }) := by
    refine exec_fire_ok.mpr ⟨s, ?_, rfl⟩
    simp only [Passport.handle, Context.ofQueue, perform_bind, h, perform_pure]
  simp only [commandRounds, hfire, Option.getD_some]

end Dialog

end TanDialog
