import TanDialog.TanProcess
import TanDialog.Property.Set
import TanDialog.Text.Numeral

/-!
# Tasks

A task is one segment of a message: a business transaction or a TAN request. Tasks refer to each
other by their numbers in a queue. `TanRequest.writeFields` writes a request into the fields of a
message that opens a dialog, below a path of its own.
-/

namespace TanDialog

/-- An account of the user. -/
structure Account where
  iban : String := ""
  bic : String := ""
  number : String := ""
  subnumber : String := ""
  blz : String := ""
  country : String := ""
deriving DecidableEq

/-- The number of a task in a queue. -/
abbrev TaskId := Nat

/-- A request for a TAN, or the submission of one. -/
structure TanRequest where
  process : TanProcess
  /-- The code of the segment that the request is about. -/
  orderSegmentCode : String := ""
  orderHash : Option (List UInt8) := none
  orderAccount : Option Account := none
  /-- The bank's reference to the order. -/
  orderRef : String := ""
  notLastTan : Bool := false
  challengeClass : String := ""
  challengeParams : List String := []
  tanMedia : String := ""
  /-- The second step that belongs to a first step. -/
  step2 : Option TaskId := none
  /-- The business task that a second step answers for. -/
  task : Option TaskId := none
deriving DecidableEq

/-- What kind of segment a task is. -/
inductive TaskKind
  | business
  | tan (request : TanRequest)
deriving DecidableEq

/-- A segment to be sent. -/
structure Task where
  /-- The segment code. -/
  code : String
  version : Nat
  /-- An identifier of the caller, which the TAN requests for the task take over. -/
  externalId : Option String := none
  params : PropertySet := ∅
  account : Option Account := none
  /-- Whether a TAN request has been made for the task. -/
  tanApplied : Bool := false
  kind : TaskKind := .business
deriving DecidableEq

namespace Task

/-- The code of TAN requests. -/
def tanCode : String := "HKTAN"

/-- A task that is a TAN request. -/
def ofRequest (version : Nat) (externalId : Option String) (request : TanRequest) : Task :=
  { code := tanCode, version, externalId, kind := .tan request }

/-- The request of a task that is one. -/
def tanRequest? (t : Task) : Option TanRequest :=
  match t.kind with
  | .tan request => some request
  | .business => none

/-- The task with another order reference in its request. -/
def withOrderRef (t : Task) (orderRef : String) : Task :=
  match t.kind with
  | .tan request => { t with kind := .tan { request with orderRef } }
  | .business => t

end Task

/-! ### Requests as fields -/

/-- Binary data as a field value: `B` and two upper-case hexadecimal digits per byte. -/
def renderBinary (bytes : List UInt8) : String := String.ofList ('B' :: Numeral.bytesHex bytes)

namespace TanRequest

/-- The fields of a request, by their paths below that of the request. -/
def fields (r : TanRequest) : List (String × String) :=
  let account := r.orderAccount.getD {}
  [("process", r.process.code),
   ("ordersegcode", r.orderSegmentCode),
   ("OrderAccount.bic", account.bic),
   ("OrderAccount.iban", account.iban),
   ("OrderAccount.number", account.number),
   ("OrderAccount.subnumber", account.subnumber),
   ("OrderAccount.KIK.blz", account.blz),
   ("OrderAccount.KIK.country", account.country),
   ("orderhash", (r.orderHash.map renderBinary).getD ""),
   ("orderref", r.orderRef),
   ("notlasttan", if r.notLastTan then "J" else "N"),
   ("challengeklass", r.challengeClass),
   ("tanmedia", r.tanMedia)] ++
  r.challengeParams.zipIdx.map fun (p, i) =>
    ("ChallengeKlassParams.param" ++ toString (i + 1), p)

/-- Writes a request below a path. The path itself gets a value that makes the encoder include
the segment, which is optional. -/
def writeFields (r : TanRequest) (path : String) (s : PropertySet) : PropertySet :=
  (s.insert path "requested").insertAll (r.fields.map fun f => (path ++ "." ++ f.1, f.2))

end TanRequest

end TanDialog
