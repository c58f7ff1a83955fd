import TanDialog.Passport.Session

/-!
# Which segments need a TAN

A segment that the bank has declared needs a TAN or not as declared. One that is not declared is
unknown if the bank knows the transaction, and administrative otherwise. When a new method is to
be verified, the segment that identifies the user counts once as needing a TAN.
-/

namespace TanDialog

/-- The code of the segment that identifies the user. -/
def identificationCode : String := "HKIDN"

namespace Passport

/-- Whether a segment needs a TAN only because a method is to be verified. -/
def verifies (p : Passport) (bpd : PropertySet) (code : String) : Bool :=
  (BankParameters.declaredRequirement? bpd code).isNone &&
    !BankParameters.knowsTransaction bpd code && p.verifyTanMode && code == identificationCode

/-- Whether a segment needs a TAN, if a method is to be verified or not. -/
def requirement (p : Passport) (code : String) : Requirement :=
  match p.bpd with
  | none => .unknown
  | some bpd =>
    match BankParameters.declaredRequirement? bpd code with
    | some r => r
    | none =>
      if BankParameters.knowsTransaction bpd code then .unknown
      else if p.verifies bpd code then .required
      else .administrative

/-- The passport after a segment has been looked up: a verification is asked for only once. -/
def lookedUp (p : Passport) (code : String) : Passport :=
  if p.bpd.any (p.verifies · code) then { p with verifyTanMode := false } else p

/-- Looks up whether a segment needs a TAN. -/
def lookUpRequirement (code : String) : Effect Requirement := do
  let p ← Session.getPassport
  Session.modifyPassport (·.lookedUp code)
  return p.requirement code

/-- The hash mode for a version of the TAN requests. -/
def hashMode (version : Nat) : Action HashMode := do
  match (← Session.getPassport).bpd.bind (BankParameters.hashMode? · version) with
  | some mode => return mode
  | none => throw .unknownHashMode

end Passport

end TanDialog
