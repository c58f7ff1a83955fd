import TanDialog.Queue.Basic
import TanDialog.Reply.Status

/-!
# The context of a dialog

What a dialog knows beyond the passport: the message that opens it while it is being made, the
tasks to be sent, the status of the last reply, how far the authentication has come, and whether
the opening has to be repeated.
-/

namespace TanDialog

/-- The message that opens a dialog, in preparation. -/
structure Opening where
  template : Template
  /-- The fields to be encoded. -/
  fields : PropertySet := ∅
deriving DecidableEq

/-- The state of a dialog. -/
structure Context where
  /-- Whether the dialog runs without credentials. -/
  anonymous : Bool := false
  opening : Option Opening := none
  queue : Option MessageQueue := none
  /-- The status of the last reply. -/
  status : Option ReplyStatus := none
  /-- How far the authentication has come. -/
  step : Option Step := none
  /-- Whether the opening is to be repeated. -/
  again : Bool := false
deriving DecidableEq

namespace Context

/-- The context of a dialog that is opened by a template. -/
def ofTemplate (template : Template) : Context :=
  { anonymous := template == .startAnonymous, opening := some { template } }

/-- The context in which a queue is sent. -/
def ofQueue (queue : MessageQueue) : Context := { queue := some queue }

/-- The template of the opening. -/
def template? (c : Context) : Option Template := c.opening.map (·.template)

/-- Whether strong authentication takes place with the opening. -/
def authenticates (c : Context) : Bool := c.template?.any Template.authenticates

/-- Changes the opening, if there is one. -/
def modifyOpening (c : Context) (f : Opening → Opening) : Context :=
  { c with opening := c.opening.map f }

/-- The context without fields. -/
def clearFields (c : Context) : Context := c.modifyOpening ({ · with fields := ∅ })

/-- Whether the opening is to be repeated, and the context in which this has been noticed. -/
def takeAgain (c : Context) : Bool × Context := (c.again, { c with again := false })

end Context

end TanDialog
