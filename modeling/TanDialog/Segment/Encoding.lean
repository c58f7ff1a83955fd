import TanDialog.Queue.Task

/-!
# Encoded segments

A task is encoded as `CODE:number:version`, followed by the values of its parameters in path order,
each led by a plus sign, and an apostrophe. Values are not escaped.
-/

namespace TanDialog.Segment

/-- A segment made of its code, its number in the message, its version and its values. -/
def encode (code : String) (number : Nat) (version : String) (values : List String) : String :=
  code ++ ":" ++ toString number ++ ":" ++ version ++
    String.join (values.map fun v => "+" ++ v) ++ "'"

/-- The segment of a task. -/
def ofTask (t : Task) (number : Nat) : String :=
  encode t.code number (toString t.version) t.params.values

end TanDialog.Segment
