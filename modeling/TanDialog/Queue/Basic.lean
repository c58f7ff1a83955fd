import TanDialog.Queue.Task

/-!
# Message queues

A queue holds tasks and messages. A task keeps its number for good: tasks are only ever added at
the end, and a message is a list of task numbers. A message may name a task more than once, or a
number that is not taken.
-/

namespace TanDialog

/-- The tasks of a message, in order. -/
abbrev Message := List TaskId

/-- Tasks and the messages that send them. -/
structure MessageQueue where
  /-- The task with number `i` is the `i`-th one. -/
  tasks : List Task := []
  messages : List Message := []
deriving DecidableEq

namespace MessageQueue

/-- The task with a number. -/
def task? (q : MessageQueue) (id : TaskId) : Option Task := q.tasks[id]?

/-- Adds a task without putting it into a message. -/
def alloc (q : MessageQueue) (t : Task) : TaskId × MessageQueue :=
  (q.tasks.length, { q with tasks := q.tasks ++ [t] })

/-- Adds an empty message at the end. -/
def pushMessage (q : MessageQueue) : Nat × MessageQueue :=
  (q.messages.length, { q with messages := q.messages ++ [[]] })

/-- Puts an empty message at an index; there is no place beyond the end. -/
def insertMessage? (q : MessageQueue) (index : Nat) : Option (Nat × MessageQueue) :=
  if index ≤ q.messages.length then
    some (index, { q with messages := q.messages.insertIdx index [] })
  else none

/-- Puts an empty message in front of the message at an index. -/
def insertBefore? (q : MessageQueue) (index : Nat) : Option (Nat × MessageQueue) :=
  q.insertMessage? index

/-- Puts an empty message behind the message at an index. -/
def insertAfter? (q : MessageQueue) (index : Nat) : Option (Nat × MessageQueue) :=
  q.insertMessage? (index + 1)

/-- Puts a task number at the end of the message at an index, if there is such a message. -/
def attach (q : MessageQueue) (index : Nat) (id : TaskId) : MessageQueue :=
  { q with messages := q.messages.modify index (· ++ [id]) }

/-- Adds a task at the end of the message at an index. -/
def append (q : MessageQueue) (index : Nat) (t : Task) : TaskId × MessageQueue :=
  let (id, q) := q.alloc t
  (id, q.attach index id)

/-- Adds a task in a message of its own. -/
def push (q : MessageQueue) (t : Task) : TaskId × MessageQueue :=
  let (index, q) := q.pushMessage
  q.append index t

/-- Changes the task with a number. -/
def modifyTask (q : MessageQueue) (id : TaskId) (f : Task → Task) : MessageQueue :=
  { q with tasks := q.tasks.modify id f }

/-- The tasks that a message names, with their numbers. -/
def tasksOf (q : MessageQueue) (m : Message) : List (TaskId × Task) :=
  m.filterMap fun id => (q.task? id).map fun t => (id, t)

/-- The tasks of the message at an index. -/
def messageTasks (q : MessageQueue) (index : Nat) : List (TaskId × Task) :=
  q.tasksOf ((q.messages[index]?).getD [])

/-- The first task with a code, in the order of the messages. -/
def findTask? (q : MessageQueue) (code : String) : Option TaskId :=
  q.messages.flatten.find? fun id => (q.task? id).any (·.code == code)

/-- The second step that belongs to a task, if both are TAN requests. -/
def secondStep? (q : MessageQueue) (id : TaskId) : Option TaskId := do
  let step2 ← (← (← q.task? id).tanRequest?).step2
  let _ ← (← q.task? step2).tanRequest?
  return step2

/-- Puts the order reference that came for a first step into its second step. Answers with the
number of the second step. -/
def forwardOrderRef (q : MessageQueue) (id : TaskId) (orderRef : String) :
    Option TaskId × MessageQueue :=
  match q.secondStep? id with
  | some step2 => (some step2, q.modifyTask step2 (·.withOrderRef orderRef))
  | none => (none, q)

/-! ### Laws -/

@[simp]
theorem tasks_attach (q : MessageQueue) (index : Nat) (id : TaskId) :
    (q.attach index id).tasks = q.tasks := rfl

@[simp]
theorem messages_modifyTask (q : MessageQueue) (id : TaskId) (f : Task → Task) :
    (q.modifyTask id f).messages = q.messages := rfl

theorem forwardOrderRef_of_none {q : MessageQueue} {id : TaskId} {orderRef : String}
    (h : (q.forwardOrderRef id orderRef).1 = none) : (q.forwardOrderRef id orderRef).2 = q := by
  unfold forwardOrderRef at h ⊢
  split at h
  · cases h
  · rfl

end MessageQueue

end TanDialog
