import TanDialog.Passport.Basic

/-!
# What a catalog holds

A catalog that is built from bank parameters, or by adding methods, holds every method under the
method's own security function (`Catalog.Keyed`). Hence its options come in the strict order of
their identifiers (`Catalog.Keyed.pairwise_options`).
-/

namespace TanDialog

namespace Catalog

/-- Every method is held under its own security function. -/
def Keyed (c : Catalog) : Prop := ∀ e ∈ c.entries, e.2.id = e.1

theorem keyed_empty : Keyed ∅ := fun _ he => nomatch he

namespace Keyed

variable {c : Catalog}

theorem id_eq (h : c.Keyed) {id : String} {m : Method} (hm : c.get? id = some m) : m.id = id :=
  h _ (Dictionary.get?_eq_some_iff.mp hm)

/-- A method that goes in under its own security function keeps the rule. -/
theorem add (h : c.Keyed) (m : Method) : (c.add m).Keyed := by
  intro e he
  rcases Dictionary.mem_insertEntry he with rfl | he
  · rfl
  · exact h e he

theorem consider (h : c.Keyed) (ceiling : Option Nat) (bpd : PropertySet) (d : Declaration) :
    (c.consider ceiling bpd d).Keyed := by
  unfold Catalog.consider
  split
  · exact h.add (d.method bpd)
  · exact h

/-- The options come in the strict order of their identifiers. -/
theorem pairwise_options (h : c.Keyed) : c.options.Pairwise (·.id < ·.id) := by
  rw [options, Dictionary.values, List.map_map, List.pairwise_map]
  refine c.sorted.imp_of_mem fun {a b} ha hb hab => ?_
  change a.2.id < b.2.id
  rw [h a ha, h b hb]
  exact hab

end Keyed

/-- The catalog of bank parameters, whatever they hold. -/
theorem keyed_ofBankParameters (ceiling : Option Nat) (bpd : PropertySet) :
    (ofBankParameters ceiling bpd).Keyed := by
  have hfold (ds : List Declaration) (c : Catalog) (h : c.Keyed) :
      (ds.foldl (Catalog.consider ceiling bpd) c).Keyed := by
    induction ds generalizing c with
    | nil => exact h
    | cons d ds ih => exact ih _ (h.consider ceiling bpd d)
  exact hfold _ ∅ keyed_empty

end Catalog

end TanDialog
