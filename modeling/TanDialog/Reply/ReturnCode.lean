import TanDialog.Text.Numeral

/-!
# Return codes

The bank answers every message with four-digit return codes. The first character tells the
severity; seven codes have a fixed reaction (`KnownCode`), and four of these say that the bank
refused the credentials. A return code is known by its number, so that leading zeros do not
matter.
-/

namespace TanDialog

/-- How serious a return code is. -/
inductive Severity
  | info
  | warning
  | error
deriving DecidableEq, Repr

namespace Severity

/-- All severities. -/
def all : List Severity := [info, warning, error]

/-- The name of a severity. -/
def label : Severity → String
  | info => "info"
  | warning => "warning"
  | error => "error"

/-- The severity of a return code: `9…` is an error and `3…` a warning. -/
def ofCode (code : String) : Severity :=
  match code.toList with
  | '9' :: _ => error
  | '3' :: _ => warning
  | _ => info

end Severity

/-- The return codes to which a dialog reacts. -/
inductive KnownCode
  /-- The user or customer identifier changed; the parameters carry the new ones. -/
  | identifiersChanged
  /-- No strong authentication is required for this exchange. -/
  | authenticationExempt
  /-- The two-step methods the user may use, one per parameter. -/
  | methodsAllowed
  /-- The PIN is invalid. -/
  | pinInvalid
  /-- The PIN is locked after too many attempts. -/
  | pinLocked
  /-- The user name or the PIN is wrong. -/
  | loginWrong
  /-- The PIN is wrong. -/
  | pinWrong
deriving DecidableEq, Repr

namespace KnownCode

/-- All known codes, in increasing order. -/
def all : List KnownCode :=
  [identifiersChanged, authenticationExempt, methodsAllowed, pinInvalid, pinLocked, loginWrong,
    pinWrong]

/-- The number of a known code. -/
def number : KnownCode → Nat
  | identifiersChanged => 3072
  | authenticationExempt => 3076
  | methodsAllowed => 3920
  | pinInvalid => 9340
  | pinLocked => 9342
  | loginWrong => 9931
  | pinWrong => 9942

/-- The label of a known code: a letter for its severity and its number. -/
def label (k : KnownCode) : String :=
  (if k.number < 9000 then "W" else "E") ++ toString k.number

/-- The known code with a number. -/
def ofNumber? (n : Nat) : Option KnownCode := all.find? (·.number == n)

/-- The codes that say that the bank refused the credentials. -/
def isAuthFailure : KnownCode → Bool
  | pinInvalid | pinLocked | loginWrong | pinWrong => true
  | _ => false

end KnownCode

end TanDialog
