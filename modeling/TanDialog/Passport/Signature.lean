import TanDialog.Flicker.Reader
import TanDialog.Passport.Requirement
import TanDialog.Passport.Selection
import TanDialog.Segment.Codes

/-!
# Signatures

A message is signed by `PIN|TAN`. The PIN is asked for once and kept. Under the one-step method a
TAN is asked for if some segment of the message needs one, and only once; under a two-step method
it is asked for if a challenge is stored, and the challenge is used up by that.
-/

namespace TanDialog.Passport

/-- The text that asks for a TAN under the one-step method. -/
def oneStepPrompt : String := "Enter TAN"

/-- The text that asks for a TAN under a two-step method. -/
def twoStepPrompt (method : Option Method) (challenge : String) : String :=
  (method.map Method.name).getD "" ++ "\n" ++ (method.map Method.inputInfo).getD "" ++ "\n\n" ++
    challenge

/-- The PIN, which is asked for where it is not known. -/
def obtainPin (app : Application) : Action String := do
  match (← Session.getPassport).pin with
  | some pin => return pin
  | none =>
    let pin ← Session.ask app .requestPin
    if pin.isEmpty then throw .emptyPin
    Session.modifyPassport ({ · with pin := some pin })
    return pin

/-- Asks for a TAN. -/
def obtainTan (app : Application) (prompt : String) (flicker : Option String) : Action String := do
  let tan ← Session.ask app (.requestTan prompt flicker)
  if tan.isEmpty then throw .emptyTan
  return tan

/-- The TAN for segments with the given codes under the one-step method, if it is so far `tan`.
Every code is looked up, also when the TAN is known. -/
def oneStepTan (app : Application) (tan : String) : List String → Action String
  | [] => return tan
  | code :: codes => do
    let requirement ← lookUpRequirement code
    let tan ←
      if requirement = .required ∧ tan.isEmpty then obtainTan app oneStepPrompt none else pure tan
    oneStepTan app tan codes

/-- The TAN for the stored challenge, which is used up. Without a challenge there is no TAN, and
an optical payload is dropped. -/
def twoStepTan (app : Application) : Action String := do
  let method ← currentMethodInfo app
  let challenge := (← Session.getPassport).challenge
  Session.modifyPassport fun p =>
    { p with challenge := { p.challenge with text := none, payload := none } }
  match challenge.text with
  | none => return ""
  | some text =>
    obtainTan app (twoStepPrompt method text) (Flicker.decode challenge.payload challenge.text)

/-- The signature of a message. -/
def sign (app : Application) (message : List UInt8) : Action String := do
  let pin ← obtainPin app
  let id ← currentMethod app false
  let tan ←
    if id = Method.oneStepId then oneStepTan app "" (Segment.codes message) else twoStepTan app
  return pin ++ "|" ++ tan

end TanDialog.Passport
