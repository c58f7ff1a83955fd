import TanDialog.Reply.Status
import TanDialog.Queue.Basic

/-!
# Banks

A dialog hands its requests to a bank, which encodes them and then takes the signed messages. Like
an application, a bank is any function that acts in view of everything that has happened before:
it may fail to encode, answer with a reply, fail, or never answer at all.
-/

namespace TanDialog

/-- The content of a message. -/
inductive Request
  /-- Opens a dialog. -/
  | opening (template : Template) (fields : PropertySet)
  /-- Sends tasks. -/
  | tasks (tasks : List Task)
deriving DecidableEq

/-- Why a message did not get through. -/
inductive TransportError
  /-- The script of the bank has no reply left for the message with this number. -/
  | noReply (message : Nat)
  /-- The script of the bank has no place for the request with this number. -/
  | unexpectedRequest (request : Nat)
deriving DecidableEq

/-- What is wrong, in words. -/
def TransportError.message : TransportError → String
  | noReply n => "no reply scripted for message " ++ toString n
  | unexpectedRequest n => "unexpected request: " ++ toString n

/-- What becomes of a message. -/
inductive Delivery
  | replied (data : PropertySet)
  | failed (error : TransportError)
  /-- There is no answer. -/
  | stalled
deriving DecidableEq

/-- One thing that has happened between a dialog and its bank. -/
inductive BankEvent
  | encoded (request : Request) (outcome : Except TransportError (List UInt8))
  | sent (message : List UInt8) (signature : String) (delivery : Delivery)

/-- The other side of a dialog. What has happened before is listed from the newest to the oldest. -/
structure Bank where
  encode : List BankEvent → Request → Except TransportError (List UInt8)
  send : List BankEvent → List UInt8 → String → Delivery

namespace BankEvent

/-- The request of an event, if it has been encoded. -/
def request? : BankEvent → Option Request
  | encoded request (.ok _) => some request
  | _ => none

/-- The message and signature of an event, if they have reached the bank. -/
def received? : BankEvent → Option (List UInt8 × String)
  | sent _ _ .stalled => none
  | sent message signature _ => some (message, signature)
  | _ => none

/-- The reply of an event. -/
def reply? : BankEvent → Option PropertySet
  | sent _ _ (.replied data) => some data
  | _ => none

/-- Whether the event is an attempt to encode a request. -/
def isEncoding : BankEvent → Bool
  | encoded .. => true
  | _ => false

/-- Whether the event is an attempt to send a message. -/
def isSending : BankEvent → Bool
  | sent .. => true
  | _ => false

end BankEvent

end TanDialog
