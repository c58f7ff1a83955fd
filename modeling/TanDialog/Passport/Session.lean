import TanDialog.Challenge.Class
import TanDialog.Passport.Basic

/-!
# Sessions with an application

A passport turns to the application it runs in by calls (`Call`): it asks the user for PIN, TAN,
method or medium, tells the user what happened, and has segments encoded. An application
(`Application`) is any function that answers a call in view of all earlier ones, so that it may
change its mind as it likes, but depends on nothing else.

A session is a passport with the calls made so far. An action works on a session and may fail;
what it has done until then stays done.
-/

namespace TanDialog

/-- What a passport asks of its application. -/
inductive Call
  | requestPin
  /-- A TAN for a text, possibly with a flicker code. -/
  | requestTan (prompt : String) (flicker : Option String)
  /-- One of some methods, as rendered by `MethodOption.render`. -/
  | selectMethod (options : String)
  /-- The name of a TAN medium. -/
  | requestTanMedia (default : String)
  /-- The bank refused the PIN. -/
  | wrongPin
  /-- The identifiers of user and customer changed. -/
  | userIdChanged (ids : String)
  /-- The segment of a task, to be hashed. -/
  | encodeSegment (task : Task)
  /-- The challenge class of a task. -/
  | challengeClass (task : Task) (method : Method)
deriving DecidableEq

/-- The surroundings of a passport. -/
structure Application where
  /-- The answer of the user to the first one of the calls, which are listed from the newest to
  the oldest. -/
  answer : List Call → String
  /-- The encoded segment of a task. -/
  encodeSegment : Task → Except Error (List UInt8)
  /-- The challenge class of a task. -/
  challengeClass : Task → Method → Except Error (Option Challenge.Filled)

/-- A value of an order as a challenge parameter; it may not fit the type. -/
def Challenge.ParameterType.write (type : ParameterType) (value : String) : Except Error String :=
  match type.format? value with
  | some text => .ok text
  | none => .error .invalidChallengeParam

namespace Challenge.ParameterType

variable {type : ParameterType} {value : String}

theorem write_eq_ok_iff {text : String} :
    type.write value = .ok text ↔ type.format? value = some text := by
  rw [write]
  split
  case h_1 written hformat => simp [hformat]
  case h_2 hformat => simp [hformat]

/-- There is only one reason not to write a value. -/
theorem write_eq_error_iff :
    type.write value = .error .invalidChallengeParam ↔ ¬∃ text, type.write value = .ok text := by
  rw [write]
  split <;> simp

end Challenge.ParameterType

/-- The challenge class of a task according to the table. -/
def Challenge.builtInClass (t : Task) (m : Method) : Except Error (Option Challenge.Filled) :=
  match Challenge.parameters t m with
  | .unknown => .ok none
  | .invalid => .error .invalidChallengeParam
  | .filled filled => .ok (some filled)

/-- A passport and the calls it has made, from the newest to the oldest. -/
structure Session where
  passport : Passport
  calls : List Call := []
deriving DecidableEq

/-- A step that works on a session. -/
abbrev Effect := StateM Session

/-- A step that works on a session and may fail. -/
abbrev Action := ExceptT Error Effect

namespace Session

/-- The passport of the session. -/
def getPassport : Effect Passport := return (← get).passport

/-- Changes the passport of the session. -/
def modifyPassport (f : Passport → Passport) : Effect Unit :=
  modify fun s => { s with passport := f s.passport }

/-- Makes a call whose answer does not matter. -/
def call (c : Call) : Effect Unit := modify fun s => { s with calls := c :: s.calls }

/-- Makes a call and gets its answer. -/
def ask (app : Application) (c : Call) : Effect String := do
  call c
  return app.answer (← get).calls

end Session

end TanDialog
