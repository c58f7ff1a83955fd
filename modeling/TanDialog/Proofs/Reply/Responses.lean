import Mathlib.Data.List.Basic
import TanDialog.Passport.Authentication
import TanDialog.Proofs.Property.Projection
import TanDialog.Proofs.Reply.Series
import TanDialog.Proofs.Text.Wildcard

/-!
# The TAN responses of a reply

A reply may hold several TAN responses, which are numbered (`responsePath`). They are searched for
as one: the search keeps what stands behind the part of the path that matches, so that of entries
with the same rest of their paths only the greatest one in path order is left
(`PropertySet.get?_find`). Of the order references of all responses one comes out, that of the
response whose path is the greatest (`HoldsReferences.get?_find`).
-/

namespace TanDialog

namespace PropertySet

/-- Of the entries with the same relative path a search keeps the greatest one in path order. -/
theorem get?_find {s : PropertySet} {query rest : String}
    (h : ∃ e ∈ s.entries, relativePath? (queryComponents query) e.1 = some rest) :
    ∃ e ∈ s.entries, relativePath? (queryComponents query) e.1 = some rest ∧
      (∀ e' ∈ s.entries, relativePath? (queryComponents query) e'.1 = some rest → ¬ e.1 < e'.1) ∧
      (s.find query).get? rest = some e.2 := by
  obtain ⟨e, he, hrel, hgreatest, hfind⟩ := Dictionary.exists_get?_project h
  exact ⟨e, he, hrel, fun e' he' hrel' => Std.not_lt.mpr (hgreatest e' he' hrel'), hfind⟩

end PropertySet

/-! ### Paths of responses -/

namespace Path

theorem components_append_point {first second : String} (hfirst : '.' ∉ first.toList)
    (hsecond : '.' ∉ second.toList) : components (first ++ "." ++ second) = [first, second] := by
  rw [components_append, components_eq_singleton hfirst, components_eq_singleton hsecond]
  rfl

/-- A pattern that ends in its only star matches whatever begins with the part before the star. -/
theorem matchesComponent_of_append {first rest : String} (h : '*'.toUInt8 ∉ Text.utf8 first) :
    matchesComponent (first ++ "*") (first ++ rest) := by
  have hbytes (s t : String) : Text.utf8 (s ++ t) = Text.utf8 s ++ Text.utf8 t := by
    simp [Text.utf8]
  have hstar : Text.utf8 "*" = ['*'.toUInt8] := by decide
  rw [matchesComponent_iff, hbytes, hbytes, hstar, Wildcard.produces_append_append_iff h]
  have hfiller : Wildcard.Produces '*'.toUInt8 ['*'.toUInt8] (Text.utf8 rest ++ []) :=
    .star _ .nil
  rwa [List.append_nil] at hfiller

end Path

namespace Passport

/-- The path of the TAN response with the given index, for TAN requests of a version. -/
def responsePath (version i : Nat) : String :=
  Path.numbered ("TAN2StepRes" ++ toString version) i

/-- The path of the order reference in this response. -/
def referencePath (version i : Nat) : String := responsePath version i ++ "." ++ "orderref"

theorem responsePath_eq (version i : Nat) :
    ∃ rest, responsePath version i = "TAN2StepRes" ++ rest := by
  cases i with
  | zero => exact ⟨toString version, rfl⟩
  | succ i =>
    exact ⟨toString version ++ "_" ++ toString (i + 2), by
      simp only [responsePath, Path.numbered, String.append_assoc]⟩

/-- A search for TAN responses finds every order reference under the same name. -/
theorem relativePath?_referencePath (version i : Nat) :
    PropertySet.relativePath? (PropertySet.queryComponents responseQuery)
      (referencePath version i) = some "orderref" := by
  obtain ⟨rest, hpath⟩ := responsePath_eq version i
  have hquery : PropertySet.queryComponents responseQuery = ["TAN2StepRes" ++ "*"] := by decide
  have hcomponents : Path.components (referencePath version i) =
      [responsePath version i, "orderref"] :=
    Path.components_append_point (Path.point_notMem_numbered (by
      rw [String.toList_append, List.mem_append, not_or]
      exact ⟨by decide, Path.point_notMem_toString version⟩) i) (by decide)
  have hmatches : Path.matchesComponent ("TAN2StepRes" ++ "*") (responsePath version i) := by
    rw [hpath]
    exact Path.matchesComponent_of_append (by decide)
  have hecho : PropertySet.isEcho (referencePath version i) = false := by
    rw [referencePath, hpath]
    simp [PropertySet.isEcho, PropertySet.echoMark, List.isPrefixOf]
  rw [PropertySet.relativePath?, hecho, hquery, hcomponents]
  simp only [Path.remainder?, Path.afterMatch?, hmatches, if_true]
  rfl

/-- The order references of a reply are those of its TAN responses, in the order of their
numbers. -/
structure HoldsReferences (reply : PropertySet) (version : Nat) (refs : List String) : Prop where
  each : ∀ i ref, refs[i]? = some ref → reply.get? (referencePath version i) = some ref
  /-- There are no others. -/
  only : ∀ e ∈ reply.entries,
    PropertySet.relativePath? (PropertySet.queryComponents responseQuery) e.1 = some "orderref" →
      ∃ i < refs.length, e.1 = referencePath version i

/-- One reference comes out of a search for the TAN responses: that of the response whose path is
the greatest. -/
theorem HoldsReferences.get?_find {reply : PropertySet} {version : Nat} {refs : List String}
    (h : HoldsReferences reply version refs) (hrefs : refs ≠ []) :
    ∃ last ref, refs[last]? = some ref ∧
      (∀ i < refs.length, ¬ referencePath version last < referencePath version i) ∧
      (reply.find responseQuery).get? "orderref" = some ref := by
  have hfirst : refs[0]? = some (refs.head hrefs) := by
    rw [← List.head?_eq_getElem?, List.head?_eq_some_head hrefs]
  have hmem (i : Nat) (ref : String) (hi : refs[i]? = some ref) :
      (referencePath version i, ref) ∈ reply.entries :=
    Dictionary.get?_eq_some_iff.mp (h.each i ref hi)
  obtain ⟨⟨path, value⟩, he, hrel, hgreatest, hfind⟩ := PropertySet.get?_find
    ⟨_, hmem 0 _ hfirst, relativePath?_referencePath version 0⟩
  obtain ⟨last, hlast, rfl⟩ := h.only _ he hrel
  have hvalue := h.each last refs[last] (List.getElem?_eq_getElem hlast)
  obtain rfl : refs[last] = value :=
    Option.some.inj (hvalue.symm.trans (Dictionary.get?_eq_some_iff.mpr he))
  refine ⟨last, _, List.getElem?_eq_getElem hlast, fun i hi => ?_, hfind⟩
  exact hgreatest _ (hmem i _ (List.getElem?_eq_getElem hi))
    (relativePath?_referencePath version i)

end Passport

end TanDialog
