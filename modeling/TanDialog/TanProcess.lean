/-!
# Processes and templates

The bank chooses for each method in which order a TAN request and the business task follow each
other (`Variant`). Variant and step determine the process code of a TAN request. `Template` names
the messages that open, synchronise or end a dialog.
-/

namespace TanDialog

/-- The order of TAN request and business task. -/
inductive Variant
  /-- The TAN request goes ahead and carries the hash of the order. -/
  | one
  /-- Order and TAN request go together, the TAN follows in a second step. -/
  | two
deriving DecidableEq, Repr

namespace Variant

/-- All variants. -/
def all : List Variant := [one, two]

/-- The name of a variant. -/
def label : Variant → String
  | one => "One"
  | two => "Two"

/-- The variant that a method declares; anything but `1` means variant two. -/
def ofAttr (process : Option String) : Variant := if process = some "1" then one else two

end Variant

/-- The step of the authentication while a dialog is opened. -/
inductive Step
  /-- The request has been made, the challenge is awaited. -/
  | first
  /-- The challenge has come, the TAN is submitted. -/
  | second
deriving DecidableEq, Repr

namespace Step

/-- All steps. -/
def all : List Step := [first, second]

/-- The name of a step. -/
def label : Step → String
  | first => "Step1"
  | second => "Step2"

end Step

/-- What a TAN request asks for. -/
inductive TanProcess
  /-- Variant one: announces an order by its hash. -/
  | announceOrder
  /-- Variant two, first step: submits the order and asks for a challenge. -/
  | submitOrder
  /-- Variant two, second step: submits the TAN. -/
  | submitTan
deriving DecidableEq, Repr

namespace TanProcess

/-- All processes. -/
def all : List TanProcess := [announceOrder, submitOrder, submitTan]

/-- The code of a process in a request. -/
def code : TanProcess → String
  | announceOrder => "1"
  | submitOrder => "4"
  | submitTan => "2"

/-- The process of a variant in a step; variant one has only one process. -/
def select : Variant → Step → TanProcess
  | .one, _ => announceOrder
  | .two, .first => submitOrder
  | .two, .second => submitTan

theorem code_injective {p q : TanProcess} (h : p.code = q.code) : p = q := by
  cases p <;> cases q <;> simp [code] at h ⊢

end TanProcess

/-- The messages by which a dialog is opened and closed. -/
inductive Template
  /-- Opens an authenticated dialog. -/
  | start
  /-- Opens an authenticated dialog, second step: carries the TAN. -/
  | startWithTan
  /-- Opens an anonymous dialog. -/
  | startAnonymous
  /-- Synchronises the identifier of the customer's system. -/
  | synchronise
  /-- Ends a dialog. -/
  | finish
deriving DecidableEq, Repr

namespace Template

/-- All templates. -/
def all : List Template := [start, startWithTan, startAnonymous, synchronise, finish]

/-- The name of the message that a template stands for. -/
def label : Template → String
  | start => "DialogInit"
  | startWithTan => "DialogInitSCA"
  | startAnonymous => "DialogInitAnon"
  | synchronise => "Synch"
  | finish => "DialogEnd"

/-- Whether strong authentication takes place with this message. -/
def authenticates : Template → Bool
  | start | startWithTan | synchronise => true
  | _ => false

end Template

/-- The moments at which a dialog turns to the passport. -/
inductive Event
  /-- The message that opens the dialog is about to be encoded. -/
  | messageCreated
  /-- A reply has come and its status is known. -/
  | messageSent
  /-- Business tasks have been queued, and nothing has been sent. -/
  | jobsCreated
deriving DecidableEq, Repr

namespace Event

/-- All events. -/
def all : List Event := [messageCreated, messageSent, jobsCreated]

/-- The name of an event. -/
def label : Event → String
  | messageCreated => "MessageCreated"
  | messageSent => "MessageSent"
  | jobsCreated => "JobsCreated"

end Event

end TanDialog
