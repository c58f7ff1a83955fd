import Mathlib.Data.List.Induction
import TanDialog.Passport.Patch

/-!
# Going through the tasks of a queue

A scan says which tasks of a queue get TAN requests. It visits the occurrences of tasks in the order
of the messages. A task that has no TAN request yet is looked up, and `found` collects those that
turn out to need a TAN; a look-up may use up the verification of the passport, so that the passport
is a part of the scan.

`arena` and `layout` tell the tasks and messages that variant two makes of it. Every task found
gets two numbers behind those of the queue (`secondNumber`, `firstNumber`), in the order in which
the tasks are found.
-/

namespace TanDialog

/-- How far the tasks of a queue have been gone through. -/
structure Scan where
  /-- The passport, as the look-ups leave it. -/
  passport : Passport
  /-- The tasks that need a TAN request, with their numbers. -/
  found : List (TaskId × Task) := []

namespace Scan

variable (tasks : List Task)

/-- The task with a number, if it neither had a TAN request in the beginning nor is already
found. -/
def pending? (s : Scan) (id : TaskId) : Option Task :=
  tasks[id]?.filter fun t => !t.tanApplied && decide (id ∉ s.found.map Prod.fst)

/-- The scan after a task with a number has been looked up. -/
def look (s : Scan) (id : TaskId) (t : Task) : Scan where
  passport := s.passport.lookedUp t.code
  found := if s.passport.requirement t.code = .required then s.found ++ [(id, t)] else s.found

/-- The scan after one more occurrence of a task. -/
def visit (s : Scan) (id : TaskId) : Scan :=
  match s.pending? tasks id with
  | none => s
  | some t => s.look id t

/-- The scan after more occurrences of tasks. -/
def visitAll (s : Scan) (ids : List TaskId) : Scan := ids.foldl (visit tasks) s

@[simp]
theorem visitAll_nil (s : Scan) : s.visitAll tasks [] = s := rfl

@[simp]
theorem visitAll_cons (s : Scan) (id : TaskId) (ids : List TaskId) :
    s.visitAll tasks (id :: ids) = (s.visit tasks id).visitAll tasks ids := rfl

theorem visitAll_append (s : Scan) (ids ids' : List TaskId) :
    s.visitAll tasks (ids ++ ids') = (s.visitAll tasks ids).visitAll tasks ids' :=
  List.foldl_append

/-- The scan of a whole queue. -/
def scanOf (q : MessageQueue) (p : Passport) : Scan :=
  visitAll q.tasks { passport := p } q.messages.flatten

section

variable {tasks}

/-- A scan only ever finds more tasks. -/
theorem length_found_visit (s : Scan) (id : TaskId) :
    s.found.length ≤ (s.visit tasks id).found.length := by
  rw [visit]
  split
  · exact Nat.le_refl _
  · rw [look]
    split <;> simp

theorem length_found_visitAll (s : Scan) (ids : List TaskId) :
    s.found.length ≤ (s.visitAll tasks ids).found.length := by
  induction ids generalizing s with
  | nil => exact Nat.le_refl _
  | cons id ids ih => exact Nat.le_trans (length_found_visit s id) (ih _)

end

/-! ### The tasks after a scan -/

/-- Tasks of which those with the given numbers are marked as having a TAN request. -/
def marked (tasks : List Task) (ids : List TaskId) : List Task :=
  tasks.mapIdx fun i t => if i ∈ ids then { t with tanApplied := true } else t

@[simp]
theorem length_marked (tasks : List Task) (ids : List TaskId) :
    (marked tasks ids).length = tasks.length := by
  simp [marked]

theorem getElem?_marked (tasks : List Task) (ids : List TaskId) (i : Nat) :
    (marked tasks ids)[i]? =
      tasks[i]?.map fun t => if i ∈ ids then { t with tanApplied := true } else t := by
  simp [marked]

theorem marked_nil (tasks : List Task) : marked tasks [] = tasks := by
  refine List.ext_getElem? fun i => ?_
  simp [getElem?_marked]

/-- Marking one more task. -/
theorem modify_marked (tasks : List Task) (ids : List TaskId) (id : TaskId) :
    (marked tasks ids).modify id ({ · with tanApplied := true }) = marked tasks (ids ++ [id]) := by
  refine List.ext_getElem? fun i => ?_
  rw [List.getElem?_modify, getElem?_marked, getElem?_marked]
  cases tasks[i]? with
  | none => simp
  | some t =>
    by_cases hi : i = id
    · subst hi
      by_cases hm : i ∈ ids <;> simp [hm]
    · have : ¬ id = i := fun h => hi h.symm
      simp [hi, this]

/-- The number of the second step for the task that is found as the one with index `j`, in a queue
of `n` tasks. -/
def secondNumber (n j : Nat) : Nat := n + 2 * j

/-- The number of the first step for the task that is found as the one with index `j`. -/
def firstNumber (n j : Nat) : Nat := n + 2 * j + 1

/-- The two TAN requests for a task with the number `id`: the second step, which gets the number
`next`, and the first step, which refers to it. -/
def requestPair (m : Method) (medium : String) (next id : TaskId) (t : Task) : List Task :=
  [{ code := "HKTAN", version := m.version, externalId := t.externalId
     kind := .tan { process := .submitTan, task := some id } },
   { code := "HKTAN", version := m.version, externalId := t.externalId
     kind := .tan
       { process := .submitOrder, orderSegmentCode := t.code, tanMedia := medium
         step2 := some next } }]

/-- The TAN requests for the tasks found, behind the numbers of `n` tasks. The medium may be another
one for each of them. -/
def requestPairs (m : Method) (medium : Nat → String) (n : Nat) (found : List (TaskId × Task)) :
    List Task :=
  found.zipIdx.flatMap fun (e, j) => requestPair m (medium j) (secondNumber n j) e.1 e.2

theorem requestPairs_concat (m : Method) (medium : Nat → String) (n : Nat)
    (found : List (TaskId × Task)) (e : TaskId × Task) :
    requestPairs m medium n (found ++ [e]) =
      requestPairs m medium n found ++
        requestPair m (medium found.length) (secondNumber n found.length) e.1 e.2 := by
  simp [requestPairs, List.zipIdx_append]

theorem length_requestPairs (m : Method) (medium : Nat → String) (n : Nat)
    (found : List (TaskId × Task)) : (requestPairs m medium n found).length = 2 * found.length := by
  induction found using List.reverseRecOn with
  | nil => rfl
  | append_singleton found e ih =>
    rw [requestPairs_concat, List.length_append, ih, List.length_append]
    simp only [requestPair, List.length_cons, List.length_nil]
    omega

/-- The tasks of a queue after a scan: those found are marked, and their requests stand behind. -/
def arena (s : Scan) (m : Method) (medium : Nat → String) : List Task :=
  marked tasks (s.found.map Prod.fst) ++ requestPairs m medium tasks.length s.found

theorem arena_start (p : Passport) (m : Method) (medium : Nat → String) :
    ({ passport := p } : Scan).arena tasks m medium = tasks := by
  simp [arena, marked_nil, requestPairs]

theorem length_arena (s : Scan) (m : Method) (medium : Nat → String) :
    (s.arena tasks m medium).length = secondNumber tasks.length s.found.length := by
  simp [arena, length_requestPairs, secondNumber]

/-- A change at a place of the first part leaves the second part alone. -/
theorem modify_append_left {α : Type} (f : α → α) {l : List α} {i : Nat} (hi : i < l.length)
    (l' : List α) : (l ++ l').modify i f = l.modify i f ++ l' := by
  induction l generalizing i with
  | nil => simp at hi
  | cons a l ih =>
    cases i with
    | zero => rfl
    | succ i => simp [ih (Nat.lt_of_succ_lt_succ hi)]

/-- Marking one more task, whatever has been added behind the tasks of the queue. -/
theorem modify_marked_append (ids : List TaskId) {id : TaskId} (hid : id < tasks.length)
    (added : List Task) :
    (marked tasks ids ++ added).modify id ({ · with tanApplied := true }) =
      marked tasks (ids ++ [id]) ++ added := by
  rw [modify_append_left _ (by rwa [length_marked]), modify_marked]

/-- The task that is pending in a scan is the one without request at its number, whatever has been
added behind the tasks of the queue. -/
theorem getElem?_marked_append (s : Scan) {id : TaskId} (hid : id < tasks.length)
    (added : List Task) :
    (marked tasks (s.found.map Prod.fst) ++ added)[id]?.filter (!·.tanApplied) =
      s.pending? tasks id := by
  rw [List.getElem?_append_left (by rwa [length_marked]), getElem?_marked, pending?]
  cases tasks[id]? with
  | none => rfl
  | some t => by_cases hm : id ∈ s.found.map Prod.fst <;> simp [hm, Option.filter]

/-- Adding the requests for a task of the queue and marking it. -/
theorem modify_arena (s : Scan) (m : Method) (medium : Nat → String) {id : TaskId}
    (hid : id < tasks.length) (t : Task) (p : Passport) :
    (s.arena tasks m medium ++
        requestPair m (medium s.found.length) (secondNumber tasks.length s.found.length) id
          t).modify id ({ · with tanApplied := true }) =
      ({ passport := p, found := s.found ++ [(id, t)] } : Scan).arena tasks m medium := by
  simp only [arena, List.append_assoc, List.map_append, List.map_cons, List.map_nil,
    requestPairs_concat, modify_marked_append tasks _ hid]

/-! ### The messages after a scan -/

/-- A message in which the tasks with indices from `a` up to `b` are found, with its TAN requests:
the first steps at its end, and behind it a message for each second step, the last one first. -/
def group (n : Nat) (message : Message) (a b : Nat) : List Message :=
  (message ++ (List.range' a (b - a)).map (firstNumber n)) ::
    (List.range' a (b - a)).reverse.map fun j => [secondNumber n j]

/-- The messages of a queue with their TAN requests, from a scan on. -/
def layout : List Message → Scan → List Message
  | [], _ => []
  | message :: messages, s =>
    let t := s.visitAll tasks message
    group tasks.length message s.found.length t.found.length ++ layout messages t

end Scan

end TanDialog
