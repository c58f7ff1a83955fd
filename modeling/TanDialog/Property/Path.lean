import TanDialog.Text.Wildcard
import TanDialog.Text.Bytes

/-!
# Paths

A path names a property by components separated by points. Repeated elements are numbered: the
first one carries no number, the following ones are `_2`, `_3` and so on (`numbered`).

A query is a sequence of components with wildcards. It matches a path component by component
(`afterMatch?`), either from the start or at the leftmost boundary where it leaves something over
(`remainder?`).
-/

namespace TanDialog.Path

/-- The components of a path. -/
def components (path : String) : List String := (path.toList.splitOn '.').map String.ofList

/-- The path with the given components. -/
def ofComponents (cs : List String) : String :=
  String.ofList (['.'].intercalate (cs.map String.toList))

/-- The path of the element of a repeated group with the given index, counted from zero. -/
def numbered (base : String) : Nat → String
  | 0 => base
  | n + 1 => base ++ "_" ++ toString (n + 2)

@[simp]
theorem numbered_zero (base : String) : numbered base 0 = base := rfl

/-- Whether a path lies below another one: it continues that path with a further component. -/
def isBelow (path base : String) : Bool :=
  (base.toList ++ ['.']).isPrefixOf path.toList

/-- The last component of a path. -/
def lastComponent (path : String) : String := (components path).getLastD ""

/-- The path with another last component. -/
def sibling (path name : String) : String := ofComponents ((components path).dropLast ++ [name])

/-! ### Queries -/

/-- Whether a component matches the component of a query, in which `*` stands for any text. -/
def matchesComponent (pattern component : String) : Bool :=
  Wildcard.accepts '*'.toUInt8 (Text.utf8 pattern) (Text.utf8 component)

/-- The components left over where the query matches the leading ones. -/
def afterMatch? : List String → List String → Option (List String)
  | [], cs => some cs
  | _ :: _, [] => none
  | p :: ps, c :: cs => if matchesComponent p c then afterMatch? ps cs else none

/-- The components behind the leftmost match of the query that leaves a component over. -/
def remainder? (query : List String) : List String → Option (List String)
  | [] => none
  | c :: cs =>
    match afterMatch? query (c :: cs) with
    | some (r :: rest) => some (r :: rest)
    | _ => remainder? query cs

end TanDialog.Path
