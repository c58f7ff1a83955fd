import TanDialog.Passport.Requirement
import TanDialog.Passport.Selection
import TanDialog.Passport.TanMedia
import TanDialog.Queue.Basic

/-!
# TAN requests for queued tasks

Before a queue is sent, every task in it that needs a TAN gets its TAN requests (`patch`). Under
variant one the request goes into a message of its own in front of the message with the task.
Under variant two the first step is appended to the message of the task, and the second step
follows in a message of its own, the second step of a later task before that of an earlier one.

Messages are taken one by one, and the tasks of a message one by one. When a task fails, the
messages and tasks before it stay patched, and all others stay as they are.
-/

namespace TanDialog.Passport

/-- The first version of the TAN requests that carries the account of the order. -/
def minOrderAccountVersion : Nat := 5

/-- The account that a request for a task carries. -/
def requestAccount (m : Method) (t : Task) : Option Account :=
  if minOrderAccountVersion ≤ m.version ∧ m.needsOrderAccount then t.account else none

/-- Asks for the challenge class of a task, where the method needs one. -/
def obtainClass (app : Application) (m : Method) (t : Task) :
    Action (Option Challenge.Filled) := do
  if m.needsChallengeClass then
    Session.call (.challengeClass t m)
    ExceptT.mk (pure (app.challengeClass t m))
  else return none

/-- The hash of the segment of a task. -/
def orderHash (app : Application) (m : Method) (t : Task) : Action (List UInt8) := do
  Session.call (.encodeSegment t)
  let segment ← ExceptT.mk (pure (app.encodeSegment t))
  return (← hashMode m.version).digest segment

/-- The request of variant one for a task. -/
def announcement (app : Application) (m : Method) (t : Task) : Action Task := do
  let tanMedia ← tanMedia app m.version m
  let filled ← obtainClass app m t
  let hash ← orderHash app m t
  return .ofRequest m.version t.externalId
    { process := .announceOrder
      orderSegmentCode := t.code
      orderHash := some hash
      orderAccount := requestAccount m t
      challengeClass := (filled.map (·.id)).getD ""
      challengeParams := (filled.map (·.values)).getD []
      tanMedia }

/-- The first step of variant two for a task, with the number of its second step. -/
def firstStep (m : Method) (t : Task) (tanMedia : String) (step2 : TaskId) : Task :=
  .ofRequest m.version t.externalId
    { process := .submitOrder, orderSegmentCode := t.code, tanMedia, step2 := some step2 }

/-- The second step of variant two for a task with the given number. -/
def secondStep (m : Method) (id : TaskId) (t : Task) : Task :=
  .ofRequest m.version t.externalId { process := .submitTan, task := some id }

/-! ### Patching one message -/

/-- What is added to a message. -/
structure Additions where
  /-- The messages in front of it. -/
  before : List Message := []
  /-- The tasks at its end. -/
  appended : List TaskId := []
  /-- The messages behind it. -/
  after : List Message := []
deriving DecidableEq

/-- A message with its additions. -/
def Additions.around (a : Additions) (m : Message) : List Message :=
  a.before ++ [m ++ a.appended] ++ a.after

/-- The tasks of the queue and the additions to the message that is being patched. -/
structure Patching where
  tasks : List Task
  additions : Additions := {}

/-- Adds the TAN requests for a task that needs a TAN. -/
def addRequests (app : Application) (m : Method) (id : TaskId) (t : Task) (s : Patching) :
    Action Patching := do
  let next := s.tasks.length
  match m.variant with
  | .one =>
    let request ← announcement app m t
    return { tasks := s.tasks ++ [request]
             additions := { s.additions with before := s.additions.before ++ [[next]] } }
  | .two =>
    let tanMedia ← tanMedia app m.version m
    return { tasks := s.tasks ++ [secondStep m id t, firstStep m t tanMedia next]
             additions :=
               { s.additions with
                 appended := s.additions.appended ++ [next + 1]
                 after := [next] :: s.additions.after } }

/-- Patches for a task, if there is one that needs a TAN and has no request yet. -/
def patchTask (app : Application) (m : Method) (id : TaskId) (s : Patching) : Action Patching := do
  match s.tasks[id]?.filter (!·.tanApplied) with
  | none => return s
  | some t =>
    if (← lookUpRequirement t.code) = .required then
      let s ← addRequests app m id t s
      return { s with tasks := s.tasks.modify id ({ · with tanApplied := true }) }
    else return s

/-- Patches for the tasks of a message, up to the first one that fails. -/
def patchTasks (app : Application) (m : Method) :
    List TaskId → Patching → Effect (Except Error Unit × Patching)
  | [], s => return (.ok (), s)
  | id :: ids, s => do
    match ← (patchTask app m id s).run with
    | .ok s => patchTasks app m ids s
    | .error e => return (.error e, s)

/-! ### Patching a queue -/

/-- Patches messages, up to the first one that fails. -/
def patchMessages (app : Application) (m : Method) :
    List Message → List Task → Effect (Except Error Unit × MessageQueue)
  | [], tasks => return (.ok (), { tasks })
  | message :: messages, tasks => do
    let (result, s) ← patchTasks app m message { tasks }
    let group := s.additions.around message
    match result with
    | .ok () =>
      let (result, rest) ← patchMessages app m messages s.tasks
      return (result, { rest with messages := group ++ rest.messages })
    | .error e => return (.error e, { tasks := s.tasks, messages := group ++ messages })

/-- The method whose requests are added to a queue; none under the one-step method. -/
def patchMethod (app : Application) : Action (Option Method) := do
  let id ← currentMethod app false
  if id = Method.oneStepId then return none
  match (← Session.getPassport).catalog.get? id with
  | some m => return some m
  | none => throw .unsupportedMethod

/-- Adds TAN requests to a queue for the tasks that need a TAN. -/
def patch (app : Application) (q : MessageQueue) : Effect (Except Error Unit × MessageQueue) := do
  match ← (patchMethod app).run with
  | .ok none => return (.ok (), q)
  | .ok (some m) => patchMessages app m q.messages q.tasks
  | .error e => return (.error e, q)

end TanDialog.Passport
