import TanDialog.Passport.Session

/-!
# The TAN medium of a request

From version 3 on a TAN request names the medium, if the method asks for it. The user is offered
the medium of the user parameters.
-/

namespace TanDialog.Passport

/-- The first version of the TAN requests that names a medium. -/
def minTanMediaVersion : Nat := 3

/-- Stands for a medium that has to be named and is not known. -/
def unknownTanMedia : String := "noref"

/-- Whether a request has to name a medium. -/
def namesTanMedia (version : Nat) (method : Option Method) : Bool :=
  minTanMediaVersion ≤ version && method.any Method.needsTanMedia

/-- The medium offered to the user. -/
def offeredTanMedia (p : Passport) : String := (p.upd.bind (·.get? "tanmedia.names")).getD ""

/-- The medium that a request names. -/
def tanMedia (app : Application) (version : Nat) (method : Option Method) : Effect String := do
  if namesTanMedia version method then
    let p ← Session.getPassport
    let answer ← Session.ask app (.requestTanMedia p.offeredTanMedia)
    return if answer.isEmpty then unknownTanMedia else answer
  else return ""

end TanDialog.Passport
