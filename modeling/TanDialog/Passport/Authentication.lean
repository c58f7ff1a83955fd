import TanDialog.Dialog.Context
import TanDialog.Passport.Requirement
import TanDialog.Passport.Selection
import TanDialog.Passport.TanMedia

/-!
# Strong authentication while a dialog is opened

The opening carries a TAN request of the first step. If the bank answers with a challenge, the
opening is repeated with a request of the second step, signed with the TAN. An exemption, or the
answer to the second step, ends the authentication.
-/

namespace TanDialog.Passport

/-- The version of the TAN requests for a method without catalog entry. -/
def defaultVersion : Nat := 6

/-- The first version of the TAN requests that can be sent with an opening. -/
def minAuthenticationVersion : Nat := 6

/-- The administrative transactions that a request refers to when they are queued. -/
def administrativeCodes : List String := ["HKPAE", "HKTAB"]

/-- The segment that the request of an opening refers to. -/
def referredCode (c : Context) : String :=
  let queued := administrativeCodes.find? fun code =>
    (c.queue.bind (·.findTask? code)).isSome
  queued.getD identificationCode

/-- The request that goes with an opening. The hash, or the challenge class under variant one, only
holds a place. -/
def openingRequest (c : Context) (variant : Variant) (step : Step) (orderRef tanMedia : String) :
    TanRequest where
  process := .select variant step
  orderSegmentCode := referredCode c
  orderHash := if variant = .two then some [0, 0, 0, 0] else none
  challengeClass := if variant = .one then "99" else ""
  orderRef := if step = .second then orderRef else ""
  tanMedia

/-- Writes the TAN request into the fields of the opening. -/
def requestAuthentication (app : Application) (c : Context) : Action Context := do
  if !c.authenticates then return c
  let method ← currentMethodInfo app
  let version := (method.map (·.version)).getD defaultVersion
  let variant := (method.map Method.variant).getD .two
  if version < minAuthenticationVersion then return c
  let step := c.step.getD .first
  let orderRef := (← Session.getPassport).challenge.orderRef.getD ""
  let tanMedia ← tanMedia app version method
  let request := openingRequest c variant step orderRef tanMedia
  let write (o : Opening) : Opening :=
    { o with fields := request.writeFields (BankParameters.requestPath version) o.fields }
  return { c.modifyOpening write with step := some step }

/-- The query for the TAN response in a reply. -/
def responseQuery : String := "TAN2StepRes*."

/-- The context after a challenge has come: the opening is repeated in the second step. -/
def advance (c : Context) : Context :=
  { c.modifyOpening ({ · with template := .startWithTan }) with
    step := some .second
    again := true }

/-- Takes the challenge from the reply to an opening, or ends the authentication. -/
def receiveChallenge (c : Context) : Effect Context := do
  if !c.authenticates then return c
  let done : Context := { c with step := none }
  if c.anonymous || (← Session.getPassport).anonymous then return done
  match c.step, c.status with
  | some step, some status =>
    if !(status.warningsWith .authenticationExempt).isEmpty then return done
    match step with
    | .second => return done
    | .first =>
      let response := status.data.find responseQuery
      if response.isEmpty then return c
      Session.modifyPassport fun p => { p with challenge := p.challenge.storeResponse response }
      return advance c
  | _, _ => return c

end TanDialog.Passport
