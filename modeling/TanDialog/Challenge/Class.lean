import TanDialog.Challenge.Parameter
import TanDialog.Method.Basic
import TanDialog.Queue.Task

/-!
# Challenge classes

A request of variant one tells the bank what kind of order is to be shown (its challenge class)
and which values of it, in fixed positions. Both depend on the segment code and on the HHD version
of the method; `table` holds them. `parameters` fills in the values of a task: a position stays
empty where the task has no value or the parameter does not apply to the method, and empty
positions at the end are cut off.
-/

namespace TanDialog.Challenge

/-- The HHD version of a method. -/
inductive Version
  | hhd12
  | hhd13
  | hhd14
deriving DecidableEq, Repr

namespace Version

/-- All versions. -/
def all : List Version := [hhd12, hhd13, hhd14]

/-- The name of a version. -/
def label : Version → String
  | hhd12 => "HHD 1.2"
  | hhd13 => "HHD 1.3"
  | hhd14 => "HHD 1.4"

/-- The version that a method declares, the earliest one if it declares none that is known. -/
def ofMethod (m : Method) : Version :=
  match (m.attr? "zkamethod_version").map String.toList with
  | some ('1' :: '.' :: '4' :: _) => hhd14
  | some ('1' :: '.' :: '3' :: _) => hhd13
  | _ => hhd12

end Version

/-- A position of a challenge class. -/
structure Parameter where
  /-- The path of the value among the parameters of a task. -/
  path : String
  type : ParameterType := .plain
  /-- Whether the parameter applies only to methods that ask for it. -/
  conditional : Bool := false
deriving DecidableEq

/-- Whether a parameter applies to a method. -/
def Parameter.appliesTo (p : Parameter) (m : Method) : Bool :=
  !p.conditional || m.needsChallengeValue

/-- A challenge class with its positions. -/
structure Class where
  id : String
  parameters : List Parameter
deriving DecidableEq

/-- A SEPA transfer, in the class of the given version. -/
def sepaTransfer (id : String) : Class :=
  ⟨id, [{ path := "sepa.dst.iban" },
    { path := "sepa.btg.value", type := .amount, conditional := true }]⟩

/-- The challenge classes by segment code and version. -/
def table : List ((String × Version) × Class) :=
  [(("HKAOM", .hhd12), ⟨"20", [{ path := "Other.number" },
      { path := "BTG.value", type := .amount, conditional := true }]⟩),
   (("HKAOM", .hhd13), ⟨"20", [{ path := "My.number" }, { path := "Other.number" },
      { path := "BTG.value", type := .amount, conditional := true }]⟩),
   (("HKAOM", .hhd14), ⟨"10", [{ path := "BTG.value", type := .amount }, { path := "My.number" },
      { path := "Other.blz" }, { path := "Other.number" }]⟩),
   (("HKCCS", .hhd12), sepaTransfer "22"),
   (("HKCCS", .hhd13), sepaTransfer "22"),
   (("HKCCS", .hhd14), sepaTransfer "09"),
   (("HKTUE", .hhd14), ⟨"05", [{ path := "Other.number" }, { path := "Other.blz" },
      { path := "BTG.value", type := .amount }, { path := "date", type := .date }]⟩),
   (("HKDTE", .hhd14), ⟨"04", []⟩)]

/-- The challenge class of a segment code in a version. -/
def lookup? (code : String) (version : Version) : Option Class := table.lookup (code, version)

/-- A challenge class with the values of a task. -/
structure Filled where
  id : String
  values : List String
deriving DecidableEq

/-- The value at a position; none where the value of the task does not fit its type. -/
def Parameter.value? (p : Parameter) (t : Task) (m : Method) : Option String :=
  match t.params.getNonEmpty? p.path with
  | some value => if p.appliesTo m then p.type.format? value else some ""
  | none => some ""

/-- Cuts off the empty texts at the end. -/
def trimEmpty (values : List String) : List String :=
  (values.reverse.dropWhile String.isEmpty).reverse

/-- Fills a challenge class with the values of a task; none where a value does not fit. -/
def Class.fill? (c : Class) (t : Task) (m : Method) : Option Filled :=
  (c.parameters.mapM fun (p : Parameter) => p.value? t m).map fun values => ⟨c.id, trimEmpty values⟩

/-- The outcome for a task and a method. -/
inductive Outcome
  /-- There is no challenge class. -/
  | unknown
  /-- A value does not fit its position. -/
  | invalid
  | filled (parameters : Filled)
deriving DecidableEq

/-- The challenge class of a task with its values. -/
def parameters (t : Task) (m : Method) : Outcome :=
  match lookup? t.code (.ofMethod m) with
  | none => .unknown
  | some c =>
    match c.fill? t m with
    | some filled => .filled filled
    | none => .invalid

end TanDialog.Challenge
