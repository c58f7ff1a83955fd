import TanDialog.Property.Set
import TanDialog.Text.Blank

/-!
# Property sets as lines of text

A property file holds one `path=value` per line. Blanks around a line, its path and its value do
not count; blank lines and lines that start with `#` are passed over. The first `=` of a line ends
its path. `readLines` reads a file, or names the first line that has no `=`.
-/

namespace TanDialog.PropertySet

/-- A line that is neither blank nor a comment and has no `=`, with its number from one on. -/
structure InvalidLine where
  number : Nat
  text : String
deriving DecidableEq

/-- What a line says. -/
inductive LineContent
  /-- Nothing: the line is blank or a comment. -/
  | nothing
  /-- A value at a path. -/
  | property (path value : String)
  /-- There is no `=`. -/
  | invalid

/-- Reads a line that has been trimmed. -/
def lineContent (line : List Char) : LineContent :=
  if line.isEmpty || line.head? == some '#' then .nothing
  else if line.contains '=' then
    let path := Text.trim (line.takeWhile (· ≠ '='))
    let value := Text.trim ((line.dropWhile (· ≠ '=')).drop 1)
    .property (String.ofList path) (String.ofList value)
  else .invalid

/-- Reads lines, of which the first has the given number, into a property set. -/
def readLinesFrom : Nat → PropertySet → List (List Char) → Except InvalidLine PropertySet
  | _, s, [] => .ok s
  | n, s, line :: lines =>
    let line := Text.trim line
    match lineContent line with
    | .nothing => readLinesFrom (n + 1) s lines
    | .property path value => readLinesFrom (n + 1) (s.insert path value) lines
    | .invalid => .error ⟨n, String.ofList line⟩

/-- Reads a property file. -/
def readLines (text : String) : Except InvalidLine PropertySet :=
  readLinesFrom 1 ∅ (text.toList.splitOn '\n')

end TanDialog.PropertySet
