import Mathlib.Order.Monotone.Basic
import TanDialog.Proofs.Queue.References

/-!
# Operations on a queue

Tasks are known by their numbers and messages by their indices. A number stays that of its task for
good. An index does not: it moves on whenever a message is put in front of it (`Operation.moved`).

What an operation does is told by four accounts of it: the task it adds (`task?`), the empty message
it opens (`opened?`), the task numbers it puts at the end of a message (`addressed`) and the order
references it puts into a task (`references`). They say everything about the queue afterwards
(`Operation.Effect`). The accounts of a run are put together from those of its steps, and say
everything about the queue at its end (`KeepsHandles`).
-/

namespace TanDialog

theorem mapIdx_eq_self {α : Type} {l : List α} {f : Nat → α → α}
    (h : ∀ i a, l[i]? = some a → f i a = a) : l.mapIdx f = l := by
  refine List.mapIdx_eq_iff.mpr fun i => ?_
  cases ha : l[i]? with
  | none => rfl
  | some a => rw [Option.map_some, h i a ha]

/-- The task after some order references have been put into its request, one after the other. -/
def Task.withOrderRefs (t : Task) (refs : List String) : Task := refs.foldl Task.withOrderRef t

@[simp]
theorem Task.withOrderRefs_nil (t : Task) : t.withOrderRefs [] = t := rfl

theorem Task.withOrderRefs_append (t : Task) (refs refs' : List String) :
    t.withOrderRefs (refs ++ refs') = (t.withOrderRefs refs).withOrderRefs refs' :=
  List.foldl_append

namespace MessageQueue

/-- The operations on a queue. -/
inductive Operation
  | alloc (t : Task)
  | append (index : Nat) (t : Task)
  | attach (index : Nat) (id : TaskId)
  | push (t : Task)
  | pushMessage
  | insertBefore (index : Nat)
  | insertAfter (index : Nat)
  | forwardOrderRef (first : TaskId) (orderRef : String)

/-- What an operation answers with. -/
inductive Answer
  | task (id : TaskId)
  | message (index : Nat)
  | secondStep (id : Option TaskId)
  | nothing
deriving DecidableEq

namespace Operation

/-- The answer of an operation and the queue after it; there is no place for a message beyond the
end. -/
def result? (q : MessageQueue) : Operation → Option (Answer × MessageQueue)
  | alloc t => some ((q.alloc t).map .task id)
  | append index t => some ((q.append index t).map .task id)
  | attach index id => some (.nothing, q.attach index id)
  | push t => some ((q.push t).map .task id)
  | pushMessage => some (q.pushMessage.map .message id)
  | insertBefore index => (q.insertBefore? index).map (Prod.map .message id)
  | insertAfter index => (q.insertAfter? index).map (Prod.map .message id)
  | forwardOrderRef first orderRef => some ((q.forwardOrderRef first orderRef).map .secondStep id)

/-! ### The accounts of an operation -/

/-- The task that comes into being. -/
def task? : Operation → Option Task
  | alloc t | append _ t | push t => some t
  | _ => none

/-- The index at which an empty message comes into being. -/
def opened? (q : MessageQueue) : Operation → Option Nat
  | push _ | pushMessage => some q.messages.length
  | insertBefore index => some index
  | insertAfter index => some (index + 1)
  | _ => none

/-- The index that a message has afterwards. -/
def moved (q : MessageQueue) (op : Operation) (index : Nat) : Nat :=
  match op.opened? q with
  | some place => if index < place then index else index + 1
  | none => index

/-- The task numbers that are put at the end of the message that has an index afterwards. -/
def addressed (q : MessageQueue) : Operation → Nat → List TaskId
  | append index _, i => if i = index then [q.tasks.length] else []
  | attach index id, i => if i = index then [id] else []
  | push _, i => if i = q.messages.length then [q.tasks.length] else []
  | _, _ => []

/-- The order references that are put into the task with a number, which is the second step that
belongs to a first one. -/
def references (q : MessageQueue) : Operation → TaskId → List String
  | forwardOrderRef first orderRef, id => if q.secondStep? first = some id then [orderRef] else []
  | _, _ => []

/-- The messages with an empty one at an index, if there is one to be opened. -/
def withOpened (messages : List Message) : Option Nat → List Message
  | some place => messages.insertIdx place []
  | none => messages

/-- What an operation does. -/
structure Effect (op : Operation) (q : MessageQueue) (answer : Answer) (r : MessageQueue) :
    Prop where
  tasks : r.tasks =
    (q.tasks ++ op.task?.toList).mapIdx fun id t => t.withOrderRefs (op.references q id)
  messages : r.messages =
    (withOpened q.messages (op.opened? q)).mapIdx fun i m => m ++ op.addressed q i
  opened_le : ∀ place ∈ op.opened? q, place ≤ q.messages.length
  answer : ∀ id, answer = .task id → op.task?.isSome ∧ id = q.tasks.length

/-- A task number is put at the end of one message. -/
theorem modify_append_eq_mapIdx (messages : List Message) (index : Nat) (id : TaskId) :
    messages.modify index (· ++ [id]) =
      messages.mapIdx fun i m => m ++ if i = index then [id] else [] := by
  refine (List.mapIdx_eq_iff.mpr fun i => ?_).symm
  rw [List.getElem?_modify]
  by_cases hi : index = i
  · simp [hi]
  · simp [hi, Ne.symm hi]

theorem tasks_forwardOrderRef (q : MessageQueue) (first : TaskId) (orderRef : String) :
    (q.forwardOrderRef first orderRef).2.tasks =
      q.tasks.mapIdx fun id t =>
        t.withOrderRefs (if q.secondStep? first = some id then [orderRef] else []) := by
  refine (List.mapIdx_eq_iff.mpr fun id => ?_).symm
  have htask := task?_forwardOrderRef q first id orderRef
  simp only [MessageQueue.task?] at htask
  rw [htask]
  split <;> simp [Task.withOrderRefs]

theorem effect_of_insertMessage? {q r : MessageQueue} {op : Operation} {place place' : Nat}
    (hopened : op.opened? q = some place) (htask : op.task? = none)
    (hreferences : ∀ id, op.references q id = []) (haddressed : ∀ i, op.addressed q i = [])
    (h : q.insertMessage? place = some (place', r)) : op.Effect q (.message place') r := by
  obtain ⟨hle, heq⟩ := Option.ite_none_right_eq_some.mp h
  cases heq
  refine ⟨?_, ?_, ?_, nofun⟩
  · rw [htask, Option.toList_none, List.append_nil, mapIdx_eq_self]
    intro id t _
    rw [hreferences, Task.withOrderRefs_nil]
  · rw [hopened, withOpened, mapIdx_eq_self]
    intro i m _
    rw [haddressed, List.append_nil]
  · rw [hopened]
    rintro _ ⟨⟩
    exact hle

theorem effect_of_result? {q r : MessageQueue} {op : Operation} {answer : Answer}
    (h : op.result? q = some (answer, r)) : op.Effect q answer r := by
  cases op with
  | alloc t =>
    cases h
    refine ⟨?_, ?_, nofun, ?_⟩
    · exact (mapIdx_eq_self fun _ _ _ => rfl).symm
    · exact (mapIdx_eq_self fun _ m _ => List.append_nil m).symm
    · rintro id ⟨⟩
      exact ⟨rfl, rfl⟩
  | append index t =>
    cases h
    refine ⟨?_, ?_, nofun, ?_⟩
    · exact (mapIdx_eq_self fun _ _ _ => rfl).symm
    · exact modify_append_eq_mapIdx q.messages index q.tasks.length
    · rintro id ⟨⟩
      exact ⟨rfl, rfl⟩
  | attach index id =>
    cases h
    refine ⟨?_, ?_, nofun, nofun⟩
    · have htask : (attach index id).task?.toList = [] := rfl
      rw [htask, List.append_nil]
      exact (mapIdx_eq_self fun _ _ _ => rfl).symm
    · exact modify_append_eq_mapIdx q.messages index id
  | push t =>
    cases h
    refine ⟨?_, ?_, ?_, ?_⟩
    · exact (mapIdx_eq_self fun _ _ _ => rfl).symm
    · have hinsert : withOpened q.messages ((push t).opened? q) = q.messages ++ [[]] :=
        List.insertIdx_length_self
      rw [hinsert]
      exact modify_append_eq_mapIdx (q.messages ++ [[]]) q.messages.length q.tasks.length
    · rintro _ ⟨⟩
      exact Nat.le_refl _
    · rintro id ⟨⟩
      exact ⟨rfl, rfl⟩
  | pushMessage =>
    cases h
    have hpush : q.insertMessage? q.messages.length = some q.pushMessage := by
      simp [insertMessage?, MessageQueue.pushMessage, List.insertIdx_length_self]
    exact effect_of_insertMessage? rfl rfl (fun _ => rfl) (fun _ => rfl) hpush
  | insertBefore index =>
    obtain ⟨⟨place, r'⟩, hinsert, heq⟩ := Option.map_eq_some_iff.mp h
    cases heq
    exact effect_of_insertMessage? rfl rfl (fun _ => rfl) (fun _ => rfl) hinsert
  | insertAfter index =>
    obtain ⟨⟨place, r'⟩, hinsert, heq⟩ := Option.map_eq_some_iff.mp h
    cases heq
    exact effect_of_insertMessage? rfl rfl (fun _ => rfl) (fun _ => rfl) hinsert
  | forwardOrderRef first orderRef =>
    cases h
    refine ⟨?_, ?_, nofun, nofun⟩
    · have htask : (forwardOrderRef first orderRef).task?.toList = [] := rfl
      rw [htask, List.append_nil]
      exact tasks_forwardOrderRef q first orderRef
    · exact (messages_forwardOrderRef q first orderRef).trans
        (mapIdx_eq_self fun _ m _ => List.append_nil m).symm

/-! ### Where messages go -/

variable {q : MessageQueue} {op : Operation} {place : Nat}

theorem moved_of_none (h : op.opened? q = none) (i : Nat) : op.moved q i = i := by
  simp [moved, h]

theorem moved_of_some (h : op.opened? q = some place) (i : Nat) :
    op.moved q i = if i < place then i else i + 1 := by
  simp [moved, h]

theorem moved_strictMono (q : MessageQueue) (op : Operation) : StrictMono (op.moved q) := by
  intro i j hij
  cases hopened : op.opened? q with
  | none => rwa [moved_of_none hopened, moved_of_none hopened]
  | some place =>
    rw [moved_of_some hopened, moved_of_some hopened]
    split <;> split <;> omega

/-- Opening a message leaves every other one as it is. -/
theorem getElem?_withOpened_moved (hle : ∀ place ∈ op.opened? q, place ≤ q.messages.length)
    (i : Nat) : (withOpened q.messages (op.opened? q))[op.moved q i]? = q.messages[i]? := by
  cases hopened : op.opened? q with
  | none => rw [moved_of_none hopened, withOpened]
  | some place =>
    have hplace : place ≤ q.messages.length := hle place hopened
    rw [moved_of_some hopened, withOpened, List.getElem?_insertIdx]
    by_cases hi : i < place
    · rw [if_pos hi, if_pos hi]
    · rw [if_neg hi, if_neg (by omega), if_neg (by omega), Nat.add_sub_cancel]

/-- A message is one of those before or the one that has been opened. -/
theorem getElem?_withOpened_cases {j : Nat} {m : Message}
    (h : (withOpened q.messages (op.opened? q))[j]? = some m) :
    (∃ i < q.messages.length, op.moved q i = j) ∨ op.opened? q = some j ∧ m = [] := by
  cases hopened : op.opened? q with
  | none =>
    rw [hopened, withOpened] at h
    exact .inl ⟨j, (List.getElem?_eq_some_iff.mp h).1, moved_of_none hopened j⟩
  | some place =>
    rw [hopened, withOpened, List.getElem?_insertIdx] at h
    rcases Nat.lt_trichotomy j place with hj | rfl | hj
    · rw [if_pos hj] at h
      refine .inl ⟨j, (List.getElem?_eq_some_iff.mp h).1, ?_⟩
      rw [moved_of_some hopened, if_pos hj]
    · rw [if_neg (Nat.lt_irrefl j), if_pos rfl] at h
      obtain ⟨-, hm⟩ := Option.ite_none_right_eq_some.mp h
      exact .inr ⟨rfl, (Option.some.inj hm).symm⟩
    · rw [if_neg (by omega), if_neg (by omega)] at h
      refine .inl ⟨j - 1, (List.getElem?_eq_some_iff.mp h).1, ?_⟩
      rw [moved_of_some hopened, if_neg (by omega)]
      omega

namespace Effect

variable {r : MessageQueue} {answer : Answer}

theorem getElem?_messages (h : op.Effect q answer r) {i : Nat} {m : Message}
    (hm : q.messages[i]? = some m) :
    r.messages[op.moved q i]? = some (m ++ op.addressed q (op.moved q i)) := by
  rw [h.messages, List.getElem?_mapIdx, getElem?_withOpened_moved h.opened_le, hm]
  rfl

theorem messages_cases (h : op.Effect q answer r) {j : Nat} {m : Message}
    (hm : r.messages[j]? = some m) :
    (∃ i < q.messages.length, op.moved q i = j) ∨
      op.opened? q = some j ∧ m = op.addressed q j := by
  rw [h.messages, List.getElem?_mapIdx] at hm
  obtain ⟨m', hm', rfl⟩ := Option.map_eq_some_iff.mp hm
  refine (getElem?_withOpened_cases hm').imp_right fun ⟨hj, hnil⟩ => ⟨hj, ?_⟩
  rw [hnil, List.nil_append]

theorem length_tasks (h : op.Effect q answer r) :
    r.tasks.length = q.tasks.length + op.task?.toList.length := by
  rw [h.tasks, List.length_mapIdx, List.length_append]

end Effect

/-- Only a task that is there gets an order reference. -/
theorem references_eq_nil {id : TaskId} (h : q.tasks.length ≤ id) : op.references q id = [] := by
  cases op with
  | forwardOrderRef first orderRef =>
    refine if_neg fun hsecond => ?_
    have hrequest := (secondStep?_eq_some_iff.mp hsecond).2
    have hnone : q.task? id = none := List.getElem?_eq_none h
    simp [isRequest, hnone] at hrequest
  | _ => rfl

end Operation

/-! ### Runs -/

/-- A step of a run: the queue before it, the operation and its answer. -/
structure Step where
  before : MessageQueue
  operation : Operation
  answer : Answer

/-- The steps that operations take one after the other, and the queue at the end. -/
def run? : MessageQueue → List Operation → Option (List Step × MessageQueue)
  | q, [] => some ([], q)
  | q, op :: ops => do
    let (answer, r) ← op.result? q
    let (steps, last) ← run? r ops
    return (⟨q, op, answer⟩ :: steps, last)

/-- The tasks that have come into being. -/
def created (steps : List Step) : List Task := steps.flatMap (·.operation.task?.toList)

/-- The order references that have been put into a task. -/
def received (steps : List Step) (id : TaskId) : List String :=
  steps.flatMap fun s => s.operation.references s.before id

/-- The index that a message has at the end. -/
def place (steps : List Step) (index : Nat) : Nat :=
  steps.foldl (fun i s => s.operation.moved s.before i) index

/-- The task numbers that have been put at the end of a message, wherever it was at the time. -/
def attached : List Step → Nat → List TaskId
  | [], _ => []
  | s :: steps, index =>
    let index := s.operation.moved s.before index
    s.operation.addressed s.before index ++ attached steps index

theorem created_cons (s : Step) (steps : List Step) :
    created (s :: steps) = s.operation.task?.toList ++ created steps := List.flatMap_cons

theorem received_cons (s : Step) (steps : List Step) (id : TaskId) :
    received (s :: steps) id = s.operation.references s.before id ++ received steps id :=
  List.flatMap_cons

/-- What becomes of the tasks and messages of a queue. -/
structure KeepsHandles (q : MessageQueue) (steps : List Step) (last : MessageQueue) : Prop where
  /-- Tasks keep their numbers and change only by the order references put into them. New ones have
  been added at the end. -/
  tasks : last.tasks =
    (q.tasks ++ created steps).mapIdx fun id t => t.withOrderRefs (received steps id)
  /-- A number that has been answered with is that of the next task at the time, and names the task
  that came into being then. -/
  handedOut : ∀ s ∈ steps, ∀ id, s.answer = .task id →
    q.tasks.length ≤ id ∧ id = s.before.tasks.length ∧
      ∃ t ∈ s.operation.task?, last.task? id = some (t.withOrderRefs (received steps id))
  /-- Messages keep their order. -/
  order : StrictMono (place steps)
  /-- Messages keep what they hold, in front of what has been addressed to them. -/
  messages : ∀ i m, q.messages[i]? = some m →
    last.messages[place steps i]? = some (m ++ attached steps i)
  /-- All other messages have been opened empty. -/
  others : ∀ j m, last.messages[j]? = some m →
    (∃ i < q.messages.length, place steps i = j) ∨
      ∃ earlier s later i, steps = earlier ++ s :: later ∧ s.operation.opened? s.before = some i ∧
        place later i = j ∧ m = s.operation.addressed s.before i ++ attached later i

variable {q r last : MessageQueue} {op : Operation} {answer : Answer} {steps : List Step}

namespace KeepsHandles

theorem nil (q : MessageQueue) : KeepsHandles q [] q where
  tasks := by
    rw [created, List.flatMap_nil, List.append_nil, mapIdx_eq_self]
    exact fun _ t _ => t.withOrderRefs_nil
  handedOut := by simp
  order := strictMono_id
  messages i m hm := by rwa [attached, List.append_nil]
  others j m hm := .inl ⟨j, (List.getElem?_eq_some_iff.mp hm).1, rfl⟩

variable (hstep : op.Effect q answer r) (h : KeepsHandles r steps last)
include hstep h

/-- Tasks get no order references before they are there. -/
theorem tasks_cons :
    last.tasks = (q.tasks ++ created (⟨q, op, answer⟩ :: steps)).mapIdx fun id t =>
      t.withOrderRefs (received (⟨q, op, answer⟩ :: steps) id) := by
  have hfirst : r.tasks ++ created steps =
      (q.tasks ++ (op.task?.toList ++ created steps)).mapIdx fun id t =>
        t.withOrderRefs (op.references q id) := by
    rw [← List.append_assoc, List.mapIdx_append, ← hstep.tasks, mapIdx_eq_self]
    intro i t _
    rw [Operation.references_eq_nil (by rw [List.length_append]; omega), Task.withOrderRefs_nil]
  rw [h.tasks, hfirst, List.mapIdx_mapIdx, created_cons]
  simp only [Function.comp_def, received_cons, Task.withOrderRefs_append]

theorem handedOut_cons {id : TaskId} (hanswer : answer = .task id) :
    q.tasks.length ≤ id ∧ id = q.tasks.length ∧
      ∃ t ∈ op.task?, last.task? id =
        some (t.withOrderRefs (received (⟨q, op, answer⟩ :: steps) id)) := by
  obtain ⟨hsome, rfl⟩ := hstep.answer id hanswer
  obtain ⟨t, ht⟩ := Option.isSome_iff_exists.mp hsome
  have hget : (q.tasks ++ created (⟨q, op, answer⟩ :: steps))[q.tasks.length]? = some t := by
    rw [created_cons, ht]
    simp
  refine ⟨Nat.le_refl _, rfl, t, ht, ?_⟩
  rw [MessageQueue.task?, tasks_cons hstep h, List.getElem?_mapIdx, hget]
  rfl

theorem others_cons {j : Nat} {m : Message} (hm : last.messages[j]? = some m) :
    (∃ i < q.messages.length, place (⟨q, op, answer⟩ :: steps) i = j) ∨
      ∃ earlier s later i, (⟨q, op, answer⟩ :: steps : List Step) = earlier ++ s :: later ∧
        s.operation.opened? s.before = some i ∧ place later i = j ∧
        m = s.operation.addressed s.before i ++ attached later i := by
  rcases h.others j m hm with ⟨i, hi, rfl⟩ | ⟨earlier, s, later, i, rfl, hopened, hj, hmessage⟩
  · -- After the step the message was one of those before it, or the step has opened it.
    have hstored : r.messages[i]? = some r.messages[i] := List.getElem?_eq_getElem hi
    rcases hstep.messages_cases hstored with ⟨k, hk, hmoved⟩ | ⟨hopened, hmessage⟩
    · exact .inl ⟨k, hk, congrArg (place steps) hmoved⟩
    · have hlast := h.messages i _ hstored
      rw [hm, hmessage] at hlast
      exact .inr ⟨[], ⟨q, op, answer⟩, steps, i, rfl, hopened, rfl, Option.some.inj hlast⟩
  · exact .inr ⟨⟨q, op, answer⟩ :: earlier, s, later, i, rfl, hopened, hj, hmessage⟩

theorem cons : KeepsHandles q (⟨q, op, answer⟩ :: steps) last where
  tasks := tasks_cons hstep h
  handedOut := by
    rw [List.forall_mem_cons]
    refine ⟨fun id hanswer => handedOut_cons hstep h hanswer, fun s hs id hanswer => ?_⟩
    obtain ⟨hle, hid, t, ht, hlast⟩ := h.handedOut s hs id hanswer
    have hlength : q.tasks.length ≤ r.tasks.length := hstep.length_tasks ▸ Nat.le_add_right _ _
    refine ⟨Nat.le_trans hlength hle, hid, t, ht, ?_⟩
    rw [received_cons, Operation.references_eq_nil (Nat.le_trans hlength hle), List.nil_append,
      hlast]
  order := h.order.comp (op.moved_strictMono q)
  messages i m hm := by
    have hlast := h.messages _ _ (hstep.getElem?_messages hm)
    rwa [List.append_assoc] at hlast
  others j m hm := others_cons hstep h hm

end KeepsHandles

/-- Every run keeps the handles of the queue that it starts from. -/
theorem keepsHandles_of_run? {ops : List Operation} (h : run? q ops = some (steps, last)) :
    KeepsHandles q steps last := by
  induction ops generalizing q steps with
  | nil =>
    cases h
    exact .nil _
  | cons op ops ih =>
    simp only [run?, Option.bind_eq_bind, Option.pure_def, Option.bind_eq_some_iff] at h
    obtain ⟨⟨answer, r⟩, hstep, ⟨rest, last'⟩, hrun, heq⟩ := h
    cases heq
    exact (ih hrun).cons (Operation.effect_of_result? hstep)

/-! ### Runs that come to their end -/

/-- If the operation inserts a message, then at one that is there. -/
def Operation.AtExisting (q : MessageQueue) : Operation → Prop
  | insertBefore index => index < q.messages.length
  | insertAfter index => index < q.messages.length
  | _ => True

instance (q : MessageQueue) : (op : Operation) → Decidable (op.AtExisting q)
  | .insertBefore index => inferInstanceAs (Decidable (index < _))
  | .insertAfter index => inferInstanceAs (Decidable (index < _))
  | .alloc _ | .append _ _ | .attach _ _ | .push _ | .pushMessage | .forwardOrderRef _ _ =>
    inferInstanceAs (Decidable True)

/-- Whenever one of the operations inserts a message, it is at one that is there by then. -/
def AllAtExisting : MessageQueue → List Operation → Prop
  | _, [] => True
  | q, op :: ops => op.AtExisting q ∧ ∀ result ∈ op.result? q, AllAtExisting result.2 ops

instance decidableAllAtExisting : (q : MessageQueue) → (ops : List Operation) →
    Decidable (AllAtExisting q ops)
  | _, [] => inferInstanceAs (Decidable True)
  | q, op :: ops =>
    have : DecidablePred fun result : Answer × MessageQueue => AllAtExisting result.2 ops :=
      fun result => decidableAllAtExisting result.2 ops
    inferInstanceAs (Decidable (op.AtExisting q ∧
      ∀ result ∈ op.result? q, AllAtExisting result.2 ops))

theorem exists_insertMessage? {q : MessageQueue} {index : Nat} (h : index ≤ q.messages.length) :
    ∃ result, q.insertMessage? index = some result := ⟨_, if_pos h⟩

theorem Operation.exists_result? (h : op.AtExisting q) : ∃ result, op.result? q = some result := by
  cases op with
  | insertBefore index =>
    obtain ⟨result, hinsert⟩ := exists_insertMessage? (Nat.le_of_lt h)
    exact ⟨_, congrArg (Option.map _) hinsert⟩
  | insertAfter index =>
    obtain ⟨result, hinsert⟩ := exists_insertMessage? (Nat.succ_le_of_lt h)
    exact ⟨_, congrArg (Option.map _) hinsert⟩
  | _ => exact ⟨_, rfl⟩

theorem exists_run? {ops : List Operation} (h : AllAtExisting q ops) :
    ∃ steps last, run? q ops = some (steps, last) := by
  induction ops generalizing q with
  | nil => exact ⟨_, _, rfl⟩
  | cons op ops ih =>
    obtain ⟨⟨answer, r⟩, hstep⟩ := Operation.exists_result? h.1
    obtain ⟨steps, last, hrun⟩ := ih (h.2 _ hstep)
    refine ⟨⟨q, op, answer⟩ :: steps, last, ?_⟩
    simp [run?, hstep, hrun]

/-- **Handles stay valid.** Any operations, of which insertions are at messages that are there, come
to an end from any queue. Every number keeps naming the same task, both those of the queue at the
beginning and those that have been answered with; the task changes only in its order reference, and
only where one is forwarded to it from a first step that it belongs to. New tasks stand behind all
others. Messages keep their order and what they hold; what comes behind it has been addressed to
them, and other messages have been opened empty. A reference that is not forwarded changes
nothing. The operations up to any moment are a run of their own, so all this holds at every
moment. -/
theorem handles_stay_valid {ops : List Operation} (h : AllAtExisting q ops) :
    ∃ steps last, run? q ops = some (steps, last) ∧ KeepsHandles q steps last ∧
      ∀ first orderRef, (last.forwardOrderRef first orderRef).1 = none →
        (last.forwardOrderRef first orderRef).2 = last := by
  obtain ⟨steps, last, hrun⟩ := exists_run? h
  exact ⟨steps, last, hrun, keepsHandles_of_run? hrun, fun _ _ => forwardOrderRef_of_none⟩

/-- A first step and its second step are added around a transfer, in messages that shift it. -/
theorem handles_stay_valid_sample :
    let q : MessageQueue := ⟨[⟨"HKSAL", 7, none, ∅, none, false, .business⟩,
      ⟨"HKCCS", 1, none, ∅, none, false, .business⟩], [[0], [1]]⟩
    let ops : List Operation := [.alloc (.ofRequest 6 none { process := .submitTan }),
      .insertBefore 1, .append 2 (.ofRequest 6 none { process := .submitOrder, step2 := some 2 }),
      .insertAfter 2, .attach 3 2, .forwardOrderRef 3 "R1", .forwardOrderRef 2 "R2"]
    AllAtExisting q ops ∧
      (∃ steps last, run? q ops = some (steps, last) ∧ KeepsHandles q steps last ∧
        ∀ first orderRef, (last.forwardOrderRef first orderRef).1 = none →
          (last.forwardOrderRef first orderRef).2 = last) ∧
      (run? q ops).map (fun result => (result.2.messages, result.2.tasks.map Task.orderRef?)) =
        some ([[0], [], [1, 3], [2]], [none, none, some "R1", some ""]) :=
  ⟨by decide, handles_stay_valid (by decide), by decide⟩

end MessageQueue

end TanDialog
