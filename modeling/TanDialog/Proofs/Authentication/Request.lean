import TanDialog.Passport.Authentication
import TanDialog.Proofs.Queue.RequestFields

/-!
# The TAN request of an opening

What the request of an opening says depends on the method in use, on the step and on the queue
(`openingValues`). It says so in its fields, below a path with the version of the method in it, and
these are all the fields there are (`holdsRequest_openingRequest`).
-/

namespace TanDialog

/-! ### The segment that it is about -/

/-- Whether some message of the queue names a task with a code. -/
def MessageQueue.holds (q : MessageQueue) (code : String) : Bool :=
  q.messages.flatten.any fun id => (q.task? id).any (·.code == code)

theorem MessageQueue.isSome_findTask? (q : MessageQueue) (code : String) :
    (q.findTask? code).isSome = q.holds code := by
  rw [findTask?, holds, Bool.eq_iff_iff, List.find?_isSome, List.any_eq_true]

/-- The segment that an opening is about: an administrative transaction that is queued, or the
identification of the user. -/
def openingCode (queue : Option MessageQueue) : String :=
  if queue.any (·.holds "HKPAE") then "HKPAE"
  else if queue.any (·.holds "HKTAB") then "HKTAB"
  else "HKIDN"

namespace Passport

theorem referredCode_eq (c : Context) : referredCode c = openingCode c.queue := by
  have hfind (code : String) :
      (c.queue.bind (·.findTask? code)).isSome = c.queue.any (·.holds code) := by
    cases c.queue with
    | none => rfl
    | some q => exact q.isSome_findTask? code
  simp only [referredCode, administrativeCodes, List.find?_cons, List.find?_nil, hfind, openingCode,
    identificationCode]
  cases c.queue.any (·.holds "HKPAE") with
  | true => rfl
  | false => cases c.queue.any (·.holds "HKTAB") <;> rfl

/-! ### Its version, its variant and its values -/

/-- The version of the TAN requests for a method. -/
def requestVersion (method : Option Method) : Nat := (method.map (·.version)).getD 6

/-- The variant of the TAN requests for a method. -/
def requestVariant (method : Option Method) : Variant := (method.map Method.variant).getD .two

/-- The code by which a request tells its process. -/
def processCode : Variant → Step → String
  | .one, _ => "1"
  | .two, .first => "4"
  | .two, .second => "2"

/-- The values of the request of an opening by their names. The hash, or the challenge class under
variant one, only holds a place, and there is no account. -/
def openingValues (queue : Option MessageQueue) (variant : Variant) (step : Step)
    (orderRef medium : String) : List (String × String) :=
  [("process", processCode variant step),
   ("ordersegcode", openingCode queue),
   ("OrderAccount.bic", ""),
   ("OrderAccount.iban", ""),
   ("OrderAccount.number", ""),
   ("OrderAccount.subnumber", ""),
   ("OrderAccount.KIK.blz", ""),
   ("OrderAccount.KIK.country", ""),
   ("orderhash", if variant = .two then "B00000000" else ""),
   ("orderref", if step = .second then orderRef else ""),
   ("notlasttan", "N"),
   ("challengeklass", if variant = .one then "99" else ""),
   ("tanmedia", medium)]

/-- The path of a request of the given version. -/
def openingPath (version : Nat) : String := "TAN2Step" ++ toString version

variable {queue : Option MessageQueue} {variant : Variant} {step : Step} {orderRef medium : String}

theorem code_select (variant : Variant) (step : Step) :
    (TanProcess.select variant step).code = processCode variant step := by
  cases variant <;> cases step <;> rfl

theorem fields_openingRequest (c : Context) :
    (openingRequest c variant step orderRef medium).fields =
      openingValues c.queue variant step orderRef medium := by
  have hhash : ((if variant = .two then some [0, 0, 0, 0] else none).map renderBinary).getD "" =
      if variant = .two then "B00000000" else "" := by
    cases variant <;> rfl
  simp only [TanRequest.fields, openingRequest, code_select, referredCode_eq, hhash]
  rfl

/-- The request of an opening is written with its values, and with nothing else. -/
theorem holdsRequest_openingRequest (c : Context) (version : Nat) :
    ((openingRequest c variant step orderRef medium).writeFields
        (BankParameters.requestPath version) ∅).HoldsRequest (openingPath version)
      (openingValues c.queue variant step orderRef medium) := by
  rw [← fields_openingRequest]
  exact TanRequest.holdsRequest_writeFields _ _

end Passport

end TanDialog
