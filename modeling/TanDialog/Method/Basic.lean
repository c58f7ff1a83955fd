import TanDialog.TanProcess
import TanDialog.Property.Set

/-!
# TAN methods

A two-step method is known by its security function and by the version of the segment that
declares it; everything else about it is an attribute under the name that the declaration uses.
The one-step method has no declaration.
-/

namespace TanDialog

/-- A two-step TAN method. -/
structure Method where
  /-- The security function. -/
  id : String
  /-- The version of the declaring segment, and so of the TAN requests. -/
  version : Nat
  attrs : PropertySet
deriving DecidableEq

namespace Method

/-- The security function of the one-step method. -/
def oneStepId : String := "999"

/-- The name shown for the one-step method. -/
def oneStepName : String := "PIN/TAN one-step"

/-- The attribute that holds the version of the declaring segment. -/
def versionAttr : String := "segversion"

/-- The attributes with the version written among them. -/
def withVersion (attrs : PropertySet) (version : Nat) : PropertySet :=
  attrs.insert versionAttr (toString version)

/-- A method without attributes of its own. -/
def bare (id : String) (version : Nat) : Method := ⟨id, version, withVersion ∅ version⟩

/-- The value of an attribute. -/
def attr? (m : Method) (name : String) : Option String := m.attrs.get? name

/-- The name to show. -/
def name (m : Method) : String := (m.attr? "name").getD ""

/-- The hint to show with a request for a TAN. -/
def inputInfo (m : Method) : String := (m.attr? "inputinfo").getD ""

/-- The order of TAN request and business task. -/
def variant (m : Method) : Variant := .ofAttr (m.attr? "process")

/-- Whether a request has to name the account of the order. -/
def needsOrderAccount (m : Method) : Bool := m.attr? "needorderaccount" == some "2"

/-- Whether a request of variant one has to carry a challenge class. -/
def needsChallengeClass (m : Method) : Bool := m.attr? "needchallengeklass" == some "J"

/-- Whether challenge classes include the parameters that depend on the method. -/
def needsChallengeValue (m : Method) : Bool := m.attr? "needchallengevalue" == some "J"

/-- Whether a request has to name the TAN medium. -/
def needsTanMedia (m : Method) : Bool := m.attr? "needtanmedia" == some "2"

end Method

/-! ### Options -/

/-- A method that is offered to the user. -/
structure MethodOption where
  id : String
  name : String
deriving DecidableEq

namespace MethodOption

/-- The one-step method as an option. -/
def oneStep : MethodOption := ⟨Method.oneStepId, Method.oneStepName⟩

/-- A two-step method as an option. -/
def ofMethod (m : Method) : MethodOption := ⟨m.id, m.name⟩

/-- Options as they are put to the user: `id:name|id:name`. -/
def render (options : List MethodOption) : String :=
  String.intercalate "|" (options.map fun o => o.id ++ ":" ++ o.name)

end MethodOption

end TanDialog
