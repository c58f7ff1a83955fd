import TanDialog.Proofs.Property.Projection
import TanDialog.Proofs.Reply.Series

/-!
# Where the return values of a reply stand

Everything about return values in a reply is an `Entry`: a field of a value in one of its `Slot`s,
or the segment that a block refers to. Slots, parameters and blocks are numbered independently of
each other, all in one space of paths. Two entries never share a path (`Entry.path_injective`),
because the components of a path tell which numbers it was made from (`Entry.components_path`).
-/

namespace TanDialog

namespace Path

/-- A number changes only what stands behind the name. -/
theorem prefix_numbered (base : String) (i : Nat) : base.toList <+: (numbered base i).toList := by
  cases i with
  | zero => exact List.prefix_rfl
  | succ i =>
    rw [numbered, String.append_assoc, String.toList_append]
    exact List.prefix_append _ _

theorem numbered_ne {base name : String} (h : ¬ base.toList <+: name.toList) (i : Nat) :
    numbered base i ≠ name := by
  rintro rfl
  exact h (prefix_numbered base i)

end Path

namespace ReplyStatus

/-- Where a return value stands: in the series of the message or in that of a block. -/
inductive Slot
  | global (i : Nat)
  | segment (block i : Nat)
deriving DecidableEq

/-- The path below which the return value of a slot stands. -/
def Slot.header : Slot → String
  | global i => Path.numbered "RetGlob.RetVal" i
  | segment block i => Path.numbered (Path.numbered "RetSeg" block ++ ".RetVal") i

/-- What is told of a return value. -/
inductive Field
  | code
  | text
  | elementRef
  | param (i : Nat)
deriving DecidableEq

/-- The path of a field of the return value below a header. -/
def Field.path (header : String) : Field → String
  | code => header ++ ".code"
  | text => header ++ ".text"
  | elementRef => header ++ ".ref"
  | param i => Path.numbered (header ++ ".parm") i

/-- The last component of this path. -/
def Field.name : Field → String
  | code => "code"
  | text => "text"
  | elementRef => "ref"
  | param i => Path.numbered "parm" i

theorem Field.path_eq (header : String) (field : Field) :
    field.path header = header ++ "." ++ field.name := by
  cases field with
  | param i =>
    have hname : header ++ ".parm" = header ++ "." ++ "parm" := by
      rw [String.append_assoc]
      rfl
    rw [path, hname, Path.numbered_append]
    rfl
  | _ =>
    rw [String.append_assoc]
    rfl

theorem Field.point_notMem_name (field : Field) : '.' ∉ field.name.toList := by
  cases field with
  | param i => exact Path.point_notMem_numbered (by decide) i
  | _ => decide

/-- An entry of a reply that belongs to the return values. -/
inductive Entry
  | value (slot : Slot) (field : Field)
  | segmentRef (block : Nat)
deriving DecidableEq

namespace Entry

/-- The path of an entry. -/
def path : Entry → String
  | value slot field => field.path slot.header
  | segmentRef block => Path.numbered "RetSeg" block ++ ".SegHead.ref"

/-- The components of this path. -/
def components : Entry → List String
  | value (.global i) field => ["RetGlob", Path.numbered "RetVal" i, field.name]
  | value (.segment block i) field =>
    [Path.numbered "RetSeg" block, Path.numbered "RetVal" i, field.name]
  | segmentRef block => [Path.numbered "RetSeg" block, "SegHead", "ref"]

theorem components_header (slot : Slot) (field : Field) :
    Path.components slot.header ++ [field.name] = (value slot field).components := by
  have hvalue (i : Nat) : Path.components (Path.numbered "RetVal" i) = [Path.numbered "RetVal" i] :=
    Path.components_eq_singleton (Path.point_notMem_numbered (by decide) i)
  cases slot with
  | global i =>
    have hheader : (Slot.global i).header = "RetGlob" ++ "." ++ Path.numbered "RetVal" i :=
      Path.numbered_append "RetGlob." "RetVal" i
    rw [hheader, Path.components_append, hvalue, Path.components_eq_singleton (by decide)]
    rfl
  | segment block i =>
    have hheader : (Slot.segment block i).header =
        Path.numbered "RetSeg" block ++ "." ++ Path.numbered "RetVal" i := by
      rw [← Path.numbered_append, String.append_assoc]
      rfl
    rw [hheader, Path.components_append, hvalue,
      Path.components_eq_singleton (Path.point_notMem_numbered (by decide) block)]
    rfl

theorem components_path (e : Entry) : Path.components e.path = e.components := by
  cases e with
  | value slot field =>
    rw [path, Field.path_eq, Path.components_append,
      Path.components_eq_singleton field.point_notMem_name, components_header]
  | segmentRef block =>
    have hpath : (segmentRef block).path =
        Path.numbered "RetSeg" block ++ "." ++ ("SegHead" ++ "." ++ "ref") := by
      rw [path, String.append_assoc]
      rfl
    rw [hpath, Path.components_append, Path.components_append,
      Path.components_eq_singleton (Path.point_notMem_numbered (by decide) block),
      Path.components_eq_singleton (by decide), Path.components_eq_singleton (by decide)]
    rfl

end Entry

/-! ### Different entries -/

theorem Field.name_injective : Function.Injective Field.name := by
  have hcode := Path.numbered_ne (by decide : ¬ "parm".toList <+: "code".toList)
  have htext := Path.numbered_ne (by decide : ¬ "parm".toList <+: "text".toList)
  have href := Path.numbered_ne (by decide : ¬ "parm".toList <+: "ref".toList)
  intro f g h
  cases f <;> cases g <;> simp_all [Field.name, (Path.numbered_injective "parm").eq_iff, eq_comm]

namespace Entry

theorem components_injective : Function.Injective components := by
  have hglobal := Path.numbered_ne (by decide : ¬ "RetSeg".toList <+: "RetGlob".toList)
  have hhead := Path.numbered_ne (by decide : ¬ "RetVal".toList <+: "SegHead".toList)
  intro e e' h
  rcases e with ⟨_ | _, _⟩ | _ <;> rcases e' with ⟨_ | _, _⟩ | _ <;>
    simp_all [components, (Path.numbered_injective _).eq_iff, Field.name_injective.eq_iff, eq_comm]

/-- Different entries have different paths. -/
theorem path_injective : Function.Injective path := by
  intro e e' h
  refine components_injective ?_
  rw [← components_path, ← components_path, h]

end Entry

end ReplyStatus

end TanDialog
