import TanDialog.Method.Basic
import TanDialog.Text.Numeral

/-!
# The catalog of methods

The bank parameters declare a method by its security function, at a path
`Params….TAN2StepParV….ParTAN2Step.TAN2StepParams….secfunc` with the segment version `V`; the
leaves of the same group are the attributes (`Declaration`). A method may be declared in several
versions. The catalog takes, for every method, the last declaration in path order among those of
the highest version that is not above a given ceiling. It is built by considering one declaration
after the other (`Catalog.verdict`).
-/

namespace TanDialog

/-- A declaration of a method in the bank parameters. -/
structure Declaration where
  /-- The security function of the method. -/
  id : String
  version : Nat
  /-- The path of the group of attributes. -/
  group : String
deriving DecidableEq

namespace Declaration

/-- The version in a component `TAN2StepParV`, where `V` ends at the first underscore. -/
def versionOf? (component : String) : Option Nat :=
  let mark := "TAN2StepPar".toList
  let cs := component.toList
  if mark.isPrefixOf cs then
    Numeral.decimal? Numeral.bound32 ((cs.drop mark.length).takeWhile (· ≠ '_'))
  else none

/-- The version declared by a path, if the path declares a method. -/
def pathVersion? (path : String) : Option Nat :=
  match Path.components path with
  | [params, par, group, entry, field] =>
    if "Params".toList.isPrefixOf params.toList && group == "ParTAN2Step" &&
        "TAN2StepParams".toList.isPrefixOf entry.toList && field == "secfunc" then
      versionOf? par
    else none
  | _ => none

/-- The declaration made by an entry of the bank parameters. -/
def ofEntry? (entry : String × String) : Option Declaration :=
  (pathVersion? entry.1).map fun version =>
    { id := entry.2, version, group := Path.ofComponents (Path.components entry.1).dropLast }

/-- All declarations, in path order. -/
def allIn (bpd : PropertySet) : List Declaration := bpd.entries.filterMap ofEntry?

/-- The leaves of the group, by name; of leaves with the same name the last one counts. -/
def leaves (bpd : PropertySet) (group : String) : PropertySet :=
  Dictionary.ofList ((bpd.below group).map fun e => (Path.lastComponent e.1, e.2))

/-- The declared method. -/
def method (bpd : PropertySet) (d : Declaration) : Method :=
  ⟨d.id, d.version, Method.withVersion (leaves bpd d.group) d.version⟩

end Declaration

/-- The known methods, by security function. -/
abbrev Catalog := Dictionary Method

namespace Catalog

/-- What becomes of a declaration. -/
inductive Verdict
  /-- Its version lies above the ceiling. -/
  | aboveCeiling (ceiling : Nat)
  /-- The catalog has the method in a higher version. -/
  | superseded (version : Nat)
  /-- It goes into the catalog. -/
  | taken

/-- Considers a declaration for a catalog. -/
def verdict (ceiling : Option Nat) (c : Catalog) (d : Declaration) : Verdict :=
  match ceiling.filter (· < d.version) with
  | some ceiling => .aboveCeiling ceiling
  | none =>
    match (c.get? d.id).filter (d.version < ·.version) with
    | some prior => .superseded prior.version
    | none => .taken

/-- The catalog after considering a declaration. -/
def consider (ceiling : Option Nat) (bpd : PropertySet) (c : Catalog) (d : Declaration) :
    Catalog :=
  match verdict ceiling c d with
  | .taken => c.insert d.id (d.method bpd)
  | _ => c

/-- The catalog of some bank parameters. -/
def ofBankParameters (ceiling : Option Nat) (bpd : PropertySet) : Catalog :=
  (Declaration.allIn bpd).foldl (consider ceiling bpd) ∅

/-- Adds a method under its own security function. -/
def add (c : Catalog) (m : Method) : Catalog := c.insert m.id m

/-- The methods as options, in the order of their security functions. -/
def options (c : Catalog) : List MethodOption := c.values.map MethodOption.ofMethod

end Catalog

end TanDialog
