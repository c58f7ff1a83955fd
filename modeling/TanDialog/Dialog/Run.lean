import TanDialog.Dialog.Bank
import TanDialog.Passport.Event
import TanDialog.Passport.Signature

/-!
# Running dialogs

`Dialog.start` opens a dialog: it sends the opening, lets the passport react to the reply, and
repeats this while the passport asks for it, at most as often as the settings allow.
`Dialog.sendJobs` sends a queue of tasks, message by message; the challenge that comes for the
first step of a task is kept for the TAN, and the order reference goes to the second step.

A run works on a connection: the session of the passport, what has happened with the bank, and a
clock that counts the seconds spent waiting in vain.
-/

namespace TanDialog

/-- Why a run ends early. -/
inductive RunError
  | transport (error : TransportError)
  | engine (error : Error)
  /-- The opening has been repeated as often as allowed, and was to be repeated again. -/
  | tooManyRestarts (restarts : Nat)
  /-- The bank did not answer in time. -/
  | requestTimeout
deriving DecidableEq

/-- What is wrong, in words. -/
def RunError.message : RunError → String
  | transport e => "Transport error " ++ e.message
  | engine e => "Passport operation failed: " ++ e.message
  | tooManyRestarts n =>
    "Dialog initialisation restarted too many times (" ++ toString n ++ ")"
  | requestTimeout => "Timeout waiting for bank response"

/-- The state of a passport's connection with a bank. -/
structure Connection where
  session : Session
  /-- What has happened with the bank, from the newest to the oldest. -/
  events : List BankEvent := []
  /-- The seconds spent waiting in vain. -/
  clock : Nat := 0

/-- The two sides of a run, and how many seconds to wait for a reply. -/
structure Parties where
  application : Application
  bank : Bank
  timeout : Nat := 30

/-- A step of a run. -/
abbrev Run := ExceptT RunError (StateM Connection)

namespace Dialog

/-- Runs a step of the session within the run. -/
def liftEffect {α : Type} (e : Effect α) : Run α := do
  let connection ← get
  let (a, session) := e.run connection.session
  set { connection with session }
  return a

/-- Runs an action of the session within the run. -/
def liftAction {α : Type} (a : Action α) : Run α := do
  match ← liftEffect a.run with
  | .ok a => return a
  | .error e => throw (.engine e)

/-- Lets the passport handle an event. -/
def fire (parties : Parties) (e : Event) (c : Context) : Run Context := do
  match ← liftEffect (Passport.handle parties.application e c) with
  | (.ok (), c) => return c
  | (.error e, _) => throw (.engine e)

/-! ### A single exchange -/

/-- Records what has happened with the bank. -/
def record (e : BankEvent) : Run Unit := modify fun c => { c with events := e :: c.events }

/-- Has a request encoded. -/
def encode (parties : Parties) (request : Request) : Run (List UInt8) := do
  let outcome := parties.bank.encode (← get).events request
  record (.encoded request outcome)
  match outcome with
  | .ok message => return message
  | .error e => throw (.transport e)

/-- Sends a signed message and waits for the reply. -/
def send (parties : Parties) (message : List UInt8) (signature : String) : Run PropertySet := do
  let delivery := parties.bank.send (← get).events message signature
  record (.sent message signature delivery)
  match delivery with
  | .replied data => return data
  | .failed e => throw (.transport e)
  | .stalled =>
    modify fun c => { c with clock := c.clock + parties.timeout }
    throw .requestTimeout

/-- The signature of a message, which is empty where there are no credentials. -/
def signature (parties : Parties) (anonymous : Bool) (message : List UInt8) : Run String := do
  if anonymous || (← get).session.passport.anonymous then return ""
  liftAction (Passport.sign parties.application message)

/-- Encodes, signs and sends a request. -/
def exchange (parties : Parties) (request : Request) (anonymous : Bool) : Run ReplyStatus := do
  let message ← encode parties request
  let signature ← signature parties anonymous message
  return .ofData (← send parties message signature)

/-! ### Opening a dialog -/

/-- The request of a context; the fallback is the template where the context has no opening. -/
def openingRequest (fallback : Template) (c : Context) : Request :=
  .opening (c.template?.getD fallback) ((c.opening.map (·.fields)).getD ∅)

/-- Sends the opening once and lets the passport react. -/
def attempt (parties : Parties) (fallback : Template) (c : Context) : Run Context := do
  let c ← fire parties .messageCreated c.clearFields
  let status ← exchange parties (openingRequest fallback c) c.anonymous
  fire parties .messageSent { c with status := some status }

/-- Sends the opening until it need not be repeated, with a number of repetitions left. -/
def negotiate (parties : Parties) (template : Template) (maxRestarts : Nat) :
    Nat → Context → Run Context
  | left, c => do
    let (again, c) := (← attempt parties template c).takeAgain
    if !again then return c
    match left with
    | 0 => throw (.tooManyRestarts maxRestarts)
    | left + 1 => negotiate parties template maxRestarts left c

/-- Opens a dialog. The tasks that will be sent in it may affect the opening. -/
def start (parties : Parties) (template : Template) (queue : Option MessageQueue) :
    Run Context := do
  let maxRestarts := (← get).session.passport.config.maxRestarts
  negotiate parties template maxRestarts maxRestarts { Context.ofTemplate template with queue }

/-! ### Sending tasks -/

/-- Whether the answer to a task may hold a challenge: it is a TAN request, and not one that
submits a TAN. -/
def awaitsChallenge (t : Task) : Bool := t.tanRequest?.any (·.process != .submitTan)

/-- Keeps the challenge of a TAN response and puts its order reference into the second steps of
the given tasks. -/
def distribute (response : PropertySet) : List TaskId → MessageQueue → Run MessageQueue
  | [], q => return q
  | id :: ids, q => do
    liftEffect <| Session.modifyPassport fun p =>
      { p with challenge := p.challenge.storeResponse response }
    distribute response ids (q.forwardOrderRef id ((response.get? "orderref").getD "")).2

/-- Takes in the reply to a message with the given tasks. -/
def takeReply (status : ReplyStatus) (tasks : List (TaskId × Task)) (q : MessageQueue) :
    Run MessageQueue := do
  let response := status.data.find Passport.responseQuery
  if response.isEmpty then return q
  distribute response ((tasks.filter (awaitsChallenge ·.2)).map Prod.fst) q

/-- Sends messages of a queue and collects the status of each reply. -/
def sendMessages (parties : Parties) :
    List Message → MessageQueue → Context → Run (MessageQueue × List ReplyStatus)
  | [], q, _ => return (q, [])
  | message :: messages, q, c => do
    let tasks := q.tasksOf message
    let status ← exchange parties (.tasks (tasks.map Prod.snd)) false
    let q ← takeReply status tasks q
    let c ← fire parties .messageSent { c with queue := some q, status := some status }
    let (q, replies) ← sendMessages parties messages q c
    return (q, status :: replies)

/-- Sends a queue. Answers with the queue as it was sent and the status of each reply. -/
def sendJobs (parties : Parties) (queue : MessageQueue) :
    Run (MessageQueue × List ReplyStatus) := do
  let c ← fire parties .jobsCreated (.ofQueue queue)
  let q := c.queue.getD {}
  sendMessages parties q.messages q c

end Dialog

end TanDialog
