import TanDialog.OrderHash.Mode
import TanDialog.Property.Set
import TanDialog.Text.Bytes

/-!
# What the bank parameters say

The bank tells in its parameters whether the one-step method is allowed, which business
transactions need a TAN (`declaredRequirement?`), which transactions it knows at all, and how
orders are hashed.
-/

namespace TanDialog

/-- Whether a segment needs a TAN. -/
inductive Requirement
  /-- It needs a TAN. -/
  | required
  /-- The bank has declared that it needs none. -/
  | notRequired
  /-- It is an administrative segment. -/
  | administrative
  /-- The transaction is not declared for PIN/TAN, or there are no bank parameters. -/
  | unknown
deriving DecidableEq, Repr

namespace Requirement

/-- All requirements. -/
def all : List Requirement := [required, notRequired, administrative, unknown]

/-- The letter for a requirement; the unknown one has none. -/
def label : Requirement → String
  | required => "J"
  | notRequired => "N"
  | administrative => "A"
  | unknown => ""

end Requirement

namespace BankParameters

/-- Whether one of the PIN/TAN parameters allows the one-step method. -/
def allowsOneStep (bpd : PropertySet) : Bool :=
  (bpd.findAll "Params*.PinTanPar*.ParPinTan.can1step").any (·.2 == "J")

/-- What the bank declares about a segment code. The first declaration in path order counts; the
need for a TAN stands beside the segment code. -/
def declaredRequirement? (bpd : PropertySet) (code : String) : Option Requirement :=
  ((bpd.findAll "Params*.PinTanPar*.ParPinTan.PinTanGV*.segcode").find? (·.2 == code)).map fun e =>
    if bpd.get? (Path.sibling e.1 "needtan") = some "J" then .required else .notRequired

/-- The code of the parameter segment for a business segment: `HKUEB` gives `HIUEBS`. A code with
no character boundary behind two bytes is only extended. -/
def parameterCode (code : String) : String :=
  match Text.dropBytes? 2 code.toList with
  | some rest => "HI" ++ String.ofList rest ++ "S"
  | none => code ++ "S"

/-- Whether there is a parameter segment for a business segment. -/
def knowsTransaction (bpd : PropertySet) (code : String) : Bool :=
  (bpd.findAll "Params*.*.SegHead.code").any (·.2 == parameterCode code)

/-- Whether there are PIN/TAN parameters. -/
def hasPinTan (bpd : PropertySet) : Bool :=
  bpd.keys.any fun path =>
    "Params".toList.isPrefixOf path.toList &&
      ((Path.components path)[1]?).any fun c => "PinTanPar".toList.isPrefixOf c.toList

/-- The query for the hash mode of a version of the TAN requests. -/
def hashModeQuery (version : Nat) : String :=
  "Params*.TAN2StepPar" ++ toString version ++ ".ParTAN2Step.orderhashmode"

/-- The hash mode for a version of the TAN requests. -/
def hashMode? (bpd : PropertySet) (version : Nat) : Option HashMode :=
  (bpd.findValue? (hashModeQuery version)).bind HashMode.ofCode?

/-- How the path of the fields of a TAN request starts. -/
def requestPathMark : String := "TAN2Step"

/-- The path of the fields of a TAN request in a given version. -/
def requestPath (version : Nat) : String := requestPathMark ++ toString version

end BankParameters

end TanDialog
