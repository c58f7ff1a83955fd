import Mathlib.Data.List.Basic
import TanDialog.Proofs.Queue.References

/-!
# What sending a queue makes of it

A queue is sent message by message, and every reply is taken in before the next message is made
(`Sends`). If the steps are in order (`InOrder`), a task that is sent does not change any more:
every request holds the tasks as the queue has them in the end (`Sends.requests_eq`), and a second
step ends up with the reference from the reply to its first step (`Sends.task?_of_linked`).
-/

namespace TanDialog

/-! ### Queues whose second steps come later -/

/-- The messages of a queue in which every first step stands before its second step. -/
structure InOrder (link : TaskId → Option TaskId) (messages : List Message) : Prop where
  /-- A second step belongs to one first step. -/
  unique : ∀ f g k, link f = some k → link g = some k → f = g
  /-- It is not in the message of its first step. -/
  within : ∀ message ∈ messages, ∀ f ∈ message, ∀ k, link f = some k → k ∉ message
  /-- A first step is in one message, and its second step in none before that. -/
  apart : messages.Pairwise fun a b => ∀ f k, link f = some k → (f ∈ a → f ∉ b) ∧ (f ∈ b → k ∉ a)

theorem InOrder.tail {link : TaskId → Option TaskId} {message : Message} {messages : List Message}
    (h : InOrder link (message :: messages)) : InOrder link messages where
  unique := h.unique
  within := fun m hm => h.within m (by simp [hm])
  apart := (List.pairwise_cons.mp h.apart).2

/-- A queue without links is in order. -/
theorem InOrder.of_none {link : TaskId → Option TaskId} (h : ∀ f, link f = none)
    (messages : List Message) : InOrder link messages where
  unique := fun f g k hf _ => by simp [h f] at hf
  within := fun _ _ f _ k hk => by simp [h f] at hk
  apart := List.pairwise_of_forall fun _ _ f k hk => by simp [h f] at hk

/-- Whether a task submits a TAN. -/
def Task.submitsTan (t : Task) : Bool := t.tanRequest?.any (·.process == .submitTan)

/-- A queue whose order references can be filled in while it is sent. -/
structure Ready (q : MessageQueue) : Prop where
  inOrder : InOrder q.secondStep? q.messages
  /-- The reply to a first step is searched for a challenge. -/
  awaits : ∀ f k, q.secondStep? f = some k → (q.task? f).any Dialog.awaitsChallenge
  /-- A second step submits a TAN, and its reference is still to come. -/
  blank : ∀ f k, q.secondStep? f = some k →
    ∃ t, q.task? k = some t ∧ t.submitsTan ∧ t.orderRef? = some ""

namespace Dialog

/-! ### The reply to one message -/

/-- The order reference of a reply; empty if there is none. -/
def replyReference (reply : PropertySet) : String :=
  ((reply.find Passport.responseQuery).get? "orderref").getD ""

/-- The tasks of a message whose answer may hold a challenge. -/
def awaiting (q : MessageQueue) (message : Message) : List TaskId :=
  ((q.tasksOf message).filter (awaitsChallenge ·.2)).map Prod.fst

/-- The queue after the reply to a message. -/
def settle (q : MessageQueue) (message : Message) (reply : PropertySet) : MessageQueue :=
  if (reply.find Passport.responseQuery).isEmpty then q
  else q.forwardAll (replyReference reply) (awaiting q message)

theorem mem_awaiting {q : MessageQueue} {message : Message} {f : TaskId} :
    f ∈ awaiting q message ↔ f ∈ message ∧ (q.task? f).any awaitsChallenge := by
  simp only [awaiting, MessageQueue.tasksOf, List.mem_map, List.mem_filter, List.mem_filterMap,
    Option.map_eq_some_iff, Option.any_eq_true]
  constructor
  · rintro ⟨_, ⟨⟨i, hi, t, ht, rfl⟩, ha⟩, rfl⟩
    exact ⟨hi, t, ht, ha⟩
  · rintro ⟨hf, t, ht, ha⟩
    exact ⟨(f, t), ⟨⟨f, hf, t, ht, rfl⟩, ha⟩, rfl⟩

theorem awaiting_eq_nil {q : MessageQueue} {message : Message}
    (h : ∀ id ∈ message, (q.task? id).any awaitsChallenge = false) : awaiting q message = [] := by
  refine List.eq_nil_iff_forall_not_mem.mpr fun id hid => ?_
  obtain ⟨hmem, htrue⟩ := mem_awaiting.mp hid
  rw [h id hmem] at htrue
  cases htrue

theorem messages_settle (q : MessageQueue) (message : Message) (reply : PropertySet) :
    (settle q message reply).messages = q.messages := by
  rw [settle]
  split
  · rfl
  · exact q.messages_forwardAll _ _

theorem length_tasks_settle (q : MessageQueue) (message : Message) (reply : PropertySet) :
    (settle q message reply).tasks.length = q.tasks.length := by
  rw [settle]
  split
  · rfl
  · exact q.length_tasks_forwardAll _ _

@[simp]
theorem secondStep?_settle (q : MessageQueue) (message : Message) (reply : PropertySet)
    (f : TaskId) : (settle q message reply).secondStep? f = q.secondStep? f := by
  rw [settle]
  split
  · rfl
  · exact q.secondStep?_forwardAll _ _ f

/-- A task changes with a reply only by its reference, and only if it is the second step of a task
of the message. -/
theorem task?_settle (q : MessageQueue) (message : Message) (reply : PropertySet) (id : TaskId) :
    (settle q message reply).task? id = q.task? id ∨
      (∃ f ∈ message, q.secondStep? f = some id) ∧
        (settle q message reply).task? id =
          (q.task? id).map (·.withOrderRef (replyReference reply)) := by
  rw [settle]
  split
  · exact .inl rfl
  · rw [q.task?_forwardAll]
    split
    case isTrue h =>
      obtain ⟨f, hf, hk⟩ := h
      exact .inr ⟨⟨f, (mem_awaiting.mp hf).1, hk⟩, rfl⟩
    case isFalse => exact .inl rfl

@[simp]
theorem awaitsChallenge_withOrderRef (t : Task) (ref : String) :
    awaitsChallenge (t.withOrderRef ref) = awaitsChallenge t := by
  simp only [awaitsChallenge, Task.tanRequest?_withOrderRef]
  cases t.tanRequest? <;> rfl

/-- Whether a task awaits a challenge does not change. -/
theorem any_awaitsChallenge_settle (q : MessageQueue) (message : Message) (reply : PropertySet)
    (id : TaskId) :
    ((settle q message reply).task? id).any awaitsChallenge =
      (q.task? id).any awaitsChallenge := by
  rcases task?_settle q message reply id with h | ⟨-, h⟩
  · rw [h]
  · rw [h]
    cases q.task? id <;> simp

/-- The second step of a task of the message gets the reference of the reply. If the reply has no
TAN response, nothing happens, and the reference is empty as it was. -/
theorem task?_settle_of_linked {q : MessageQueue} {message : Message} {f k : TaskId}
    (hf : f ∈ message) (hk : q.secondStep? f = some k) (ha : (q.task? f).any awaitsChallenge)
    (hblank : ∀ t, q.task? k = some t → t.orderRef? = some "") (reply : PropertySet) :
    (settle q message reply).task? k =
      (q.task? k).map (·.withOrderRef (replyReference reply)) := by
  rw [settle]
  split
  case isTrue he =>
    have href : replyReference reply = "" := by
      have : (reply.find Passport.responseQuery).entries = [] := List.isEmpty_iff.mp he
      simp [replyReference, Dictionary.get?, this, Dictionary.lookup]
    rw [href]
    cases ht : q.task? k with
    | none => rfl
    | some t => simp [Task.withOrderRef_of_orderRef? (hblank t ht)]
  case isFalse =>
    rw [q.task?_forwardAll, if_pos ⟨f, mem_awaiting.mpr ⟨hf, ha⟩, hk⟩]

/-! ### A whole queue -/

/-- The sending of a message that was answered. -/
structure Sending where
  request : List Task
  message : List UInt8
  signature : String
  reply : PropertySet

/-- What happens with the bank in a sending, the newest first. -/
def Sending.events (x : Sending) : List BankEvent :=
  [.sent x.message x.signature (.replied x.reply), .encoded (.tasks x.request) (.ok x.message)]

/-- Messages are sent one after the other; a request holds the tasks of its message as they are when
its turn comes. -/
inductive Sends : List Message → MessageQueue → List Sending → MessageQueue → Prop
  | nil (q : MessageQueue) : Sends [] q [] q
  | cons {message : Message} {messages : List Message} {q q' : MessageQueue} {x : Sending}
      {xs : List Sending} (request : x.request = (q.tasksOf message).map Prod.snd)
      (rest : Sends messages (settle q message x.reply) xs q') :
      Sends (message :: messages) q (x :: xs) q'

namespace Sends

variable {messages : List Message} {q q' : MessageQueue} {xs : List Sending}

theorem messages_eq (h : Sends messages q xs q') : q'.messages = q.messages := by
  induction h with
  | nil => rfl
  | cons _ _ ih => rw [ih, messages_settle]

theorem length_tasks (h : Sends messages q xs q') : q'.tasks.length = q.tasks.length := by
  induction h with
  | nil => rfl
  | cons _ _ ih => rw [ih, length_tasks_settle]

/-- Only second steps of tasks in the messages change, and only by their references. -/
theorem task?_eq (h : Sends messages q xs q') (id : TaskId) :
    q'.task? id = q.task? id ∨
      (∃ message ∈ messages, ∃ f ∈ message, q.secondStep? f = some id) ∧
        ∃ ref, q'.task? id = (q.task? id).map (·.withOrderRef ref) := by
  induction h with
  | nil => exact .inl rfl
  | @cons message messages q q' x xs _ _ ih =>
    simp only [secondStep?_settle] at ih
    rcases task?_settle q message x.reply id with h₁ | ⟨hlink, h₁⟩
    · rw [h₁] at ih
      refine ih.imp_right fun ⟨⟨m, hm, hl⟩, href⟩ => ⟨⟨m, by simp [hm], hl⟩, href⟩
    · refine .inr ⟨⟨message, by simp, hlink⟩, ?_⟩
      rcases ih with h₂ | ⟨-, ref, h₂⟩
      · exact ⟨_, h₂.trans h₁⟩
      · refine ⟨ref, ?_⟩
        rw [h₂, h₁, Option.map_map]
        congr 1
        funext t
        exact t.withOrderRef_withOrderRef _ _

/-- A task that no task of the messages refers to stays as it is. -/
theorem task?_of_not_linked (h : Sends messages q xs q') {id : TaskId}
    (hid : ∀ message ∈ messages, ∀ f ∈ message, q.secondStep? f ≠ some id) :
    q'.task? id = q.task? id := by
  rcases h.task?_eq id with h | ⟨⟨message, hm, f, hf, hl⟩, -⟩
  · exact h
  · exact absurd hl (hid message hm f hf)

/-- Requests hold the tasks as they are in the end. -/
theorem requests_eq (h : Sends messages q xs q') (horder : InOrder q.secondStep? messages) :
    xs.map Sending.request =
      messages.map fun message => (q'.tasksOf message).map Prod.snd := by
  induction h with
  | nil => rfl
  | @cons message messages q q' x xs request rest ih =>
    -- a task of the first message is no second step of any message from there on
    have hlater : ∀ id ∈ message, q'.task? id = q.task? id := by
      intro id hid
      refine (Sends.cons request rest).task?_of_not_linked fun m hm f hf hl => ?_
      rcases List.mem_cons.mp hm with rfl | hm
      · exact horder.within m (by simp) f hf id hl hid
      · exact (((List.pairwise_cons.mp horder.apart).1 m hm) f id hl).2 hf hid
    have htasks : q'.tasksOf message = q.tasksOf message :=
      List.filterMap_congr fun id hid => by rw [hlater id hid]
    have horder' : InOrder (settle q message x.reply).secondStep? messages := by
      rw [funext (secondStep?_settle q message x.reply)]
      exact horder.tail
    rw [List.map_cons, List.map_cons, ih horder', request, htasks]

/-- A second step ends up with the reference from the reply to the message of its first step. -/
theorem task?_of_linked (h : Sends messages q xs q') (horder : InOrder q.secondStep? messages)
    {i : Nat} {message : Message} {x : Sending} (hi : messages[i]? = some message)
    (hx : xs[i]? = some x) {f k : TaskId} (hf : f ∈ message) (hk : q.secondStep? f = some k)
    (ha : (q.task? f).any awaitsChallenge)
    (hblank : ∀ t, q.task? k = some t → t.orderRef? = some "") :
    q'.task? k = (q.task? k).map (·.withOrderRef (replyReference x.reply)) := by
  induction h generalizing i with
  | nil => simp at hi
  | @cons first messages q q' y xs _ rest ih =>
    have hapart := (List.pairwise_cons.mp horder.apart).1
    cases i with
    | zero =>
      obtain rfl : first = message := by simpa using hi
      obtain rfl : y = x := by simpa using hx
      -- no later message has a first step for the same second step
      have hrest : q'.task? k = (settle q first y.reply).task? k := by
        refine rest.task?_of_not_linked fun m hm g hg hl => ?_
        rw [secondStep?_settle] at hl
        obtain rfl := horder.unique g f k hl hk
        exact ((hapart m hm) g k hk).1 hf hg
      rw [hrest, task?_settle_of_linked hf hk ha hblank]
    | succ i =>
      have hi' : messages[i]? = some message := by simpa using hi
      have hx' : xs[i]? = some x := by simpa using hx
      -- the first message does not touch the second step
      have hfirst : (settle q first y.reply).task? k = q.task? k := by
        rcases task?_settle q first y.reply k with h | ⟨⟨g, hg, hl⟩, -⟩
        · exact h
        · obtain rfl := horder.unique g f k hl hk
          exact absurd hf (((hapart message (List.mem_of_getElem? hi')) g k hk).1 hg)
      rw [← hfirst]
      refine ih ?_ hi' hx' ?_ ?_ ?_
      · rw [funext (secondStep?_settle q first y.reply)]
        exact horder.tail
      · rwa [secondStep?_settle]
      · rwa [any_awaitsChallenge_settle]
      · rwa [hfirst]

end Sends

/-- A queue `p` that has been sent and come back as `q`. -/
structure Sent (p q : MessageQueue) (xs : List Sending) : Prop where
  /-- There was one request for each message, in order, with its tasks as they came back. -/
  requests : xs.map Sending.request = p.messages.map fun message => (q.tasksOf message).map Prod.snd
  messages : q.messages = p.messages
  length_tasks : q.tasks.length = p.tasks.length
  /-- Nothing has changed but the references of tasks that submit a TAN. -/
  tasks : ∀ id, q.task? id = p.task? id ∨
    ∃ t ref, p.task? id = some t ∧ t.submitsTan ∧ q.task? id = some (t.withOrderRef ref)
  /-- A second step has the reference from the reply to the message of its first step. -/
  references : ∀ (i : Nat) (message : Message) (x : Sending) (first second : TaskId),
    p.messages[i]? = some message → xs[i]? = some x → first ∈ message →
    p.secondStep? first = some second →
    (q.task? second).bind Task.orderRef? = some (replyReference x.reply)

theorem Sends.sent {p q : MessageQueue} {xs : List Sending} (h : Sends p.messages p xs q)
    (hready : Ready p) : Sent p q xs where
  requests := h.requests_eq hready.inOrder
  messages := h.messages_eq
  length_tasks := h.length_tasks
  tasks := fun id => by
    rcases h.task?_eq id with heq | ⟨⟨_, -, f, -, hlink⟩, ref, heq⟩
    · exact .inl heq
    · obtain ⟨t, ht, hsubmits, -⟩ := hready.blank f id hlink
      exact .inr ⟨t, ref, ht, hsubmits, by rw [heq, ht]; rfl⟩
  references := fun i message x first second hi hx hfirst hlink => by
    obtain ⟨t, ht, -, hblank⟩ := hready.blank first second hlink
    have hsecond := h.task?_of_linked hready.inOrder hi hx hfirst hlink
      (hready.awaits first second hlink) (fun u hu => by rwa [← Option.some.inj (ht.symm.trans hu)])
    obtain ⟨request, hrequest, -⟩ := Option.map_eq_some_iff.mp hblank
    simp [hsecond, ht, Task.orderRef?, hrequest]

end Dialog

end TanDialog
