import TanDialog.BankParameters
import TanDialog.Method.Catalog

/-!
# Passports

A passport is what a user's PIN/TAN dialogs leave behind: the parameters of the bank, the methods
the user may use and the one in use, the PIN while it is known, and the challenge that awaits a
TAN. The catalog of methods always follows the bank parameters. Its parts can be set from outside
(`Setter`).
-/

namespace TanDialog

/-- The settings of a passport. -/
structure Config where
  /-- Declarations of methods in higher versions are ignored. -/
  maxVersion : Option Nat := none
  /-- Whether the next dialog asks for a TAN on the segment that identifies the user. -/
  verifyTanMode : Bool := false
  /-- How often the opening of a dialog may be repeated. -/
  maxRestarts : Nat := 3
deriving DecidableEq

/-- Why the passport refuses. -/
inductive Error
  /-- The bank declares no hash mode that is known. -/
  | unknownHashMode
  /-- The current method is not in the catalog. -/
  | unsupportedMethod
  /-- The user chose a method that was not offered. -/
  | invalidSelection
  | emptyPin
  | emptyTan
  /-- A value of an order does not fit its place in the challenge class. -/
  | invalidChallengeParam
  /-- A segment could not be encoded for its hash. -/
  | encodingFailed
deriving DecidableEq, Repr

namespace Error

/-- What is wrong, in words. -/
def message : Error → String
  | unknownHashMode => "unknown order hash mode"
  | unsupportedMethod => "unsupported TAN method"
  | invalidSelection => "selected TAN method not supported"
  | emptyPin => "PIN must not be empty"
  | emptyTan => "TAN must not be empty"
  | invalidChallengeParam => "invalid challenge parameter"
  | encodingFailed => "segment encoding failed"

/-- Whether an answer of the user is at fault. -/
def isUserInput : Error → Bool
  | invalidSelection | emptyPin | emptyTan => true
  | _ => false

end Error

/-! ### The challenge that awaits a TAN -/

/-- What the bank sent to be answered by a TAN. -/
structure Challenge where
  /-- The text for the user. -/
  text : Option String := none
  /-- The optical payload. -/
  payload : Option String := none
  /-- The bank's reference to the order. -/
  orderRef : Option String := none
deriving DecidableEq

namespace Challenge

/-- The new value where it is there and not empty, and the old one otherwise. -/
def update (old new : Option String) : Option String :=
  match new.filter (!·.isEmpty) with
  | some value => some value
  | none => old

/-- Stores the parts that are there and not empty; the others stay as they are. -/
def store (c : Challenge) (text payload orderRef : Option String) : Challenge where
  text := update c.text text
  payload := update c.payload payload
  orderRef := update c.orderRef orderRef

/-- Stores what a TAN response holds. -/
def storeResponse (c : Challenge) (response : PropertySet) : Challenge :=
  c.store (response.get? "challenge") (response.get? "challenge_hhd_uc") (response.get? "orderref")

/-- Whether nothing is stored. -/
def isEmpty (c : Challenge) : Bool := c.text.isNone && c.payload.isNone && c.orderRef.isNone

end Challenge

/-! ### The passport -/

/-- The state of a user's dialogs with a bank. -/
structure Passport where
  config : Config
  /-- Bank parameters. -/
  bpd : Option PropertySet := none
  /-- User parameters. -/
  upd : Option PropertySet := none
  catalog : Catalog := ∅
  /-- The methods the user may use; empty where they are not known. -/
  enrolled : NameSet := ∅
  /-- The method in use. -/
  current : Option String := none
  /-- Whether the method in use was taken without asking the user. -/
  autoSelected : Bool := false
  pin : Option String := none
  challenge : Challenge := {}
  /-- Whether there are no credentials. -/
  anonymous : Bool := false
  verifyTanMode : Bool
deriving DecidableEq

namespace Passport

/-- A passport before its first dialog. -/
def new (config : Config) : Passport := { config, verifyTanMode := config.verifyTanMode }

/-- The passport with bank parameters and the catalog that follows from them. -/
def setBankParameters (p : Passport) (bpd : PropertySet) : Passport :=
  { p with bpd := some bpd, catalog := .ofBankParameters p.config.maxVersion bpd }

/-- The passport with a method chosen by the user. -/
def setCurrent (p : Passport) (id : String) : Passport :=
  { p with current := some id, autoSelected := false }

/-- The passport with a method taken without asking. -/
def autoSelect (p : Passport) (id : String) : Passport :=
  { p with current := some id, autoSelected := true }

/-- The passport without methods of the user and without a method in use. -/
def resetMethods (p : Passport) : Passport :=
  { p with enrolled := ∅, current := none, autoSelected := false }

/-- Whether the one-step method may be used; without bank parameters nothing forbids it. -/
def allowsOneStep (p : Passport) : Bool := p.bpd.all BankParameters.allowsOneStep

/-- The methods that the user may use as far as it is known: the one-step method first, where it
is allowed, then those of the catalog. -/
def candidates (p : Passport) : List MethodOption :=
  let oneStep := p.allowsOneStep && (p.enrolled.isEmpty || p.enrolled.contains Method.oneStepId)
  (if oneStep then [.oneStep] else []) ++ p.catalog.options.filter (p.enrolled.contains ·.id)

/-- All methods of the catalog. -/
def fallback (p : Passport) : List MethodOption := p.catalog.options

end Passport

/-! ### Setting parts of a passport -/

/-- Sets a part of a passport, or takes one out of it. -/
inductive Setter
  | bankParameters (bpd : PropertySet)
  | userParameters (upd : PropertySet)
  | enrolled (methods : List String)
  | current (id : String)
  | resetMethods
  | pin (pin : String)
  | clearPin
  | anonymous (anonymous : Bool)
  | verifyTanMode (enabled : Bool)
  | challengeText (text : Option String)
  | challengePayload (payload : Option String)
  | orderRef (orderRef : Option String)
  | takeChallengeText
  | takeChallengePayload
  | takeOrderRef

/-- The passport after a part of it has been set. -/
def Setter.apply (p : Passport) : Setter → Passport
  | bankParameters bpd => p.setBankParameters bpd
  | userParameters upd => { p with upd := some upd }
  | enrolled methods => { p with enrolled := .ofNames methods }
  | current id => p.setCurrent id
  | resetMethods => p.resetMethods
  | pin value => { p with pin := some value }
  | clearPin => { p with pin := none }
  | anonymous value => { p with anonymous := value }
  | verifyTanMode enabled => { p with verifyTanMode := enabled }
  | challengeText text => { p with challenge := p.challenge.store text none none }
  | challengePayload payload => { p with challenge := p.challenge.store none payload none }
  | orderRef value => { p with challenge := p.challenge.store none none value }
  | takeChallengeText => { p with challenge := { p.challenge with text := none } }
  | takeChallengePayload => { p with challenge := { p.challenge with payload := none } }
  | takeOrderRef => { p with challenge := { p.challenge with orderRef := none } }

end TanDialog
