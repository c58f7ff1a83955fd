import TanDialog.Passport.Session

/-!
# The method in use

`Passport.selection` says how the method in use is found: it is kept, or taken without asking
because there is only one, or the user has to choose. A choice of the user is kept while it is
still offered; a method that was taken without asking gives way as soon as there is a choice.
-/

namespace TanDialog

/-- How the method in use is found. -/
inductive Selection
  /-- The method in use stays. -/
  | keep (id : String)
  /-- There is nothing to choose. -/
  | automatic (id : String)
  /-- The user chooses among some options. -/
  | choose (options : List MethodOption)
deriving DecidableEq

namespace Passport

/-- Whether the user has chosen the method in use and may still use it. -/
def keepsChoice (p : Passport) (id : String) : Bool :=
  !p.autoSelected && p.candidates.any (·.id == id)

/-- How the method in use is found anew. -/
def reselection (p : Passport) : Selection :=
  match p.candidates with
  | [] => if p.fallback.isEmpty then .automatic Method.oneStepId else .choose p.fallback
  | [m] => .automatic m.id
  | options =>
    match p.current.filter p.keepsChoice with
    | some id => .keep id
    | none => .choose options

/-- How the method in use is found. Unless it is to be checked again, one that is there stays. -/
def selection (p : Passport) (recheck : Bool) : Selection :=
  match p.current, recheck with
  | some id, false => .keep id
  | _, _ => p.reselection

/-- Asks the user to choose a method. -/
def chooseMethod (app : Application) (options : List MethodOption) : Action String := do
  let answer ← Session.ask app (.selectMethod (MethodOption.render options))
  match options.find? (·.id == answer) with
  | some o =>
    Session.modifyPassport (·.setCurrent o.id)
    return o.id
  | none => throw .invalidSelection

/-- Carries out a selection. -/
def select (app : Application) : Selection → Action String
  | .keep id => return id
  | .automatic id => do
    Session.modifyPassport (·.autoSelect id)
    return id
  | .choose options => chooseMethod app options

/-- The method in use. -/
def currentMethod (app : Application) (recheck : Bool) : Action String := do
  select app ((← Session.getPassport).selection recheck)

/-- The method in use with its catalog entry, if it has one. -/
def currentMethodInfo (app : Application) : Action (Option Method) := do
  let id ← currentMethod app false
  return (← Session.getPassport).catalog.get? id

/-- Whether the passport can be used with the bank and the method in use. Without bank parameters
nothing speaks against it. -/
def isSupported (app : Application) : Action Bool := do
  match (← Session.getPassport).bpd.filter (!·.isEmpty) with
  | none => return true
  | some bpd =>
    if BankParameters.hasPinTan bpd then
      let id ← currentMethod app true
      let p ← Session.getPassport
      return if id = Method.oneStepId then p.allowsOneStep else p.catalog.contains id
    else return false

end Passport

end TanDialog
