import TanDialog.Dialog.Context
import TanDialog.Passport.Selection

/-!
# Reactions to return codes

After every exchange the passport looks for return codes that concern it. A refused PIN is
forgotten. The methods that the bank allows replace those known so far, and if that changes the
method in use, the opening is repeated. New identifiers are passed on to the user.
-/

namespace TanDialog.Passport

/-- Forgets the PIN if the bank refused it. -/
def forgetRefusedPin (c : Context) : Effect Unit := do
  if !c.anonymous && (c.status.bind ReplyStatus.authFailure?).isSome then
    Session.modifyPassport ({ · with pin := none })
    Session.call .wrongPin

/-- The warnings of a context with a known code. -/
def warningsWith (c : Context) (k : KnownCode) : List ReturnValue :=
  (c.status.map (·.warningsWith k)).getD []

/-- The methods that the bank allows according to some return values. -/
def allowedMethods (values : List ReturnValue) : NameSet :=
  .ofNames (values.flatMap (·.params))

/-- The passport after the bank has named the methods it allows; naming none changes nothing. -/
def enroll (p : Passport) (methods : NameSet) : Passport :=
  if methods.isEmpty then p else { p with enrolled := methods }

/-- Takes over the methods that the bank allows and checks the method in use against them. If that
changes it, the opening is to be repeated; a synchronisation is not repeated. -/
def checkAllowedMethods (app : Application) (c : Context) : Action Context := do
  let warnings := warningsWith c .methodsAllowed
  if warnings.isEmpty then return c
  Session.modifyPassport (·.enroll (allowedMethods warnings))
  let p ← Session.getPassport
  if c.anonymous || p.anonymous || c.template? == some .synchronise then return c
  let id ← currentMethod app true
  return if p.current = some id then c else { c with again := true }

/-- The new identifiers of user and customer; a single parameter stands for both. -/
def changedIds? (c : Context) : Option String :=
  match (warningsWith c .identifiersChanged).map (·.params) with
  | (user :: customer :: _) :: _ => some (user ++ "|" ++ customer)
  | [user] :: _ => some (user ++ "|" ++ user)
  | _ => none

/-- Tells the user about new identifiers. -/
def reportChangedIds (c : Context) : Effect Unit := do
  if !c.anonymous then
    match changedIds? c with
    | some ids => Session.call (.userIdChanged ids)
    | none => return ()

end TanDialog.Passport
