import Mathlib.Data.List.Forall2
import TanDialog.Proofs.Property.Projection
import TanDialog.Proofs.Text.Wildcard

/-!
# The search within paths

A query fits a path behind some of its components if the next ones match those of the query one by
one and at least one is left over (`Path.FitsAt`). A search takes the leftmost of these places
(`Path.Leaves`) and names the entry by what is left over there (`PropertySet.Names`). Whether the
query fits does not depend on the search; so what is found is said without it: under each name the
value of the last entry, in path order, that the query names so (`PropertySet.find_last_named`).
-/

namespace TanDialog

namespace Path

variable {query cs rest other : List String} {start : Nat}

/-! ### Where a query fits -/

/-- The bytes of the component are those of the pattern with some bytes in the place of each
star. -/
def IsInstance (pattern component : String) : Prop :=
  Wildcard.Produces '*'.toUInt8 (Text.utf8 pattern) (Text.utf8 component)

/-- Behind the first `start` components the query matches component by component, and `rest`, which
is not empty, is left over. -/
def FitsAt (query cs : List String) (start : Nat) (rest : List String) : Prop :=
  ∃ matched, cs.drop start = matched ++ rest ∧ List.Forall₂ IsInstance query matched ∧ rest ≠ []

/-- At the leftmost place where the query fits, `rest` is left over. -/
def Leaves (query cs rest : List String) : Prop :=
  ∃ start, FitsAt query cs start rest ∧ ∀ j < start, ∀ other, ¬ FitsAt query cs j other

theorem afterMatch?_eq_some_iff :
    afterMatch? query cs = some rest ↔
      ∃ matched, cs = matched ++ rest ∧ List.Forall₂ IsInstance query matched := by
  induction query generalizing cs with
  | nil => simp [afterMatch?, List.forall₂_nil_left_iff]
  | cons p query ih =>
    cases cs with
    | nil =>
      refine iff_of_false nofun ?_
      rintro ⟨matched, hcs, hmatched⟩
      obtain ⟨rfl, -⟩ := List.append_eq_nil_iff.mp hcs.symm
      cases hmatched
    | cons c cs =>
      by_cases hc : matchesComponent p c = true
      · rw [afterMatch?, if_pos hc, ih]
        constructor
        · rintro ⟨matched, rfl, hmatched⟩
          exact ⟨c :: matched, rfl, .cons (matchesComponent_iff.mp hc) hmatched⟩
        · rintro ⟨matched, hcs, hmatched⟩
          cases hmatched with
          | cons _ hmatched =>
            obtain ⟨-, rfl⟩ := List.cons.inj hcs
            exact ⟨_, rfl, hmatched⟩
      · rw [afterMatch?, if_neg hc]
        refine iff_of_false nofun ?_
        rintro ⟨matched, hcs, hmatched⟩
        cases hmatched with
        | cons hp _ =>
          obtain ⟨rfl, -⟩ := List.cons.inj hcs
          exact hc (matchesComponent_iff.mpr hp)

theorem fitsAt_iff :
    FitsAt query cs start rest ↔ afterMatch? query (cs.drop start) = some rest ∧ rest ≠ [] := by
  rw [afterMatch?_eq_some_iff]
  constructor
  · rintro ⟨matched, hcs, hmatched, hne⟩
    exact ⟨⟨matched, hcs, hmatched⟩, hne⟩
  · rintro ⟨⟨matched, hcs, hmatched⟩, hne⟩
    exact ⟨matched, hcs, hmatched, hne⟩

/-- At one place only one rest can be left over. -/
theorem FitsAt.unique (h : FitsAt query cs start rest) (h' : FitsAt query cs start other) :
    rest = other :=
  Option.some.inj ((fitsAt_iff.mp h).1.symm.trans (fitsAt_iff.mp h').1)

/-! ### The leftmost place -/

theorem leaves_of_fitsAt_zero (h : FitsAt query cs 0 other) :
    Leaves query cs rest ↔ other = rest := by
  constructor
  · rintro ⟨start, hfits, hleftmost⟩
    obtain rfl : start = 0 := by
      by_contra hne
      exact hleftmost 0 (Nat.pos_of_ne_zero hne) other h
    exact h.unique hfits
  · rintro rfl
    exact ⟨0, h, nofun⟩

/-- Where the query does not fit at the front, the leftmost place is that of the other
components. -/
theorem leaves_cons_of_not_fitsAt_zero {c : String}
    (h : ∀ other, ¬ FitsAt query (c :: cs) 0 other) :
    Leaves query (c :: cs) rest ↔ Leaves query cs rest := by
  constructor
  · rintro ⟨start, hfits, hleftmost⟩
    cases start with
    | zero => exact absurd hfits (h rest)
    | succ start =>
      exact ⟨start, hfits, fun j hj => hleftmost (j + 1) (Nat.succ_lt_succ hj)⟩
  · rintro ⟨start, hfits, hleftmost⟩
    refine ⟨start + 1, hfits, fun j hj => ?_⟩
    cases j with
    | zero => exact h
    | succ j => exact hleftmost j (Nat.lt_of_succ_lt_succ hj)

theorem remainder?_eq_some_iff : remainder? query cs = some rest ↔ Leaves query cs rest := by
  induction cs with
  | nil =>
    refine iff_of_false nofun ?_
    rintro ⟨start, ⟨matched, hcs, -, hne⟩, -⟩
    rw [List.drop_nil] at hcs
    exact hne (List.append_eq_nil_iff.mp hcs.symm).2
  | cons c cs ih =>
    rw [remainder?]
    split
    case h_1 r rest' hmatch =>
      have hfits : FitsAt query (c :: cs) 0 (r :: rest') := fitsAt_iff.mpr ⟨hmatch, nofun⟩
      rw [leaves_of_fitsAt_zero hfits, Option.some_inj]
    case h_2 hmatch =>
      have hnever : ∀ other, ¬ FitsAt query (c :: cs) 0 other := by
        intro other hfits
        obtain ⟨hother, hne⟩ := fitsAt_iff.mp hfits
        obtain ⟨r, rest', rfl⟩ := List.exists_cons_of_ne_nil hne
        exact hmatch r rest' hother
      rw [ih, leaves_cons_of_not_fitsAt_zero hnever]

/-- What is left over has the components of the name that is made of it. -/
theorem map_remainder?_eq_some_iff {path rest : String} :
    (remainder? query (components path)).map ofComponents = some rest ↔
      Leaves query (components path) (components rest) := by
  rw [← remainder?_eq_some_iff, Option.map_eq_some_iff]
  constructor
  · rintro ⟨cs, hcs, rfl⟩
    obtain ⟨start, ⟨matched, hpath, -, hne⟩, -⟩ := remainder?_eq_some_iff.mp hcs
    have hsuffix : cs <:+ components path :=
      (List.suffix_append matched cs).trans (hpath ▸ List.drop_suffix start _)
    have hpoints : ∀ c ∈ components path, '.' ∉ c.toList := (components_eq_iff.mp rfl).2.2
    rw [components_ofComponents hne fun c hc => hpoints c (hsuffix.subset hc), hcs]
  · intro h
    exact ⟨_, h, ofComponents_components rest⟩

/-- A query that has components leaves over what stands behind some point of a path. -/
theorem Leaves.exists_front {path rest : String} (hquery : query ≠ [])
    (h : Leaves query (components path) (components rest)) :
    ∃ front, path = front ++ "." ++ rest := by
  obtain ⟨start, ⟨matched, hpath, hmatched, -⟩, -⟩ := h
  have hne : matched ≠ [] := by
    rintro rfl
    cases hmatched
    exact hquery rfl
  have hsplit : components path =
      ((components path).take start ++ matched) ++ components rest := by
    rw [List.append_assoc, ← hpath, List.take_append_drop]
  have hfront : (components path).take start ++ matched ≠ [] :=
    List.append_ne_nil_of_right_ne_nil _ hne
  obtain ⟨hpath, -⟩ := components_eq_iff.mp hsplit
  rw [ofComponents_append hfront (components_ne_nil rest), ofComponents_components] at hpath
  exact ⟨_, hpath⟩

end Path

namespace PropertySet

variable {query path rest : String}

/-! ### What a search finds -/

/-- The query without the one point that may end it. -/
inductive IsStem : String → String → Prop
  | point (stem : String) : IsStem stem (stem ++ ".")
  | plain {query : String} (h : query.toList.getLast? ≠ some '.') : IsStem query query

/-- A query names an entry by the rest of its path if the entry is no echo and this rest is left
over at the leftmost place where the query fits. -/
structure Names (query path rest : String) : Prop where
  notEcho : ¬ "orig_".toList <+: path.toList
  leaves : ∃ stem, IsStem stem query ∧
    Path.Leaves (Path.components stem) (Path.components path) (Path.components rest)

theorem IsStem.queryComponents_eq {stem : String} (h : IsStem stem query) :
    queryComponents query = Path.components stem := by
  cases h with
  | point => simp [queryComponents]
  | plain hlast => simp [queryComponents, hlast]

theorem exists_isStem (query : String) : ∃ stem, IsStem stem query := by
  by_cases hlast : query.toList.getLast? = some '.'
  · obtain ⟨front, hfront⟩ := List.getLast?_eq_some_iff.mp hlast
    have hquery : query = String.ofList front ++ "." := by
      apply String.toList_injective
      simp [hfront]
    exact ⟨String.ofList front, hquery ▸ .point _⟩
  · exact ⟨query, .plain hlast⟩

theorem relativePath?_eq_some_iff :
    relativePath? (queryComponents query) path = some rest ↔ Names query path rest := by
  have hecho : isEcho path = true ↔ "orig_".toList <+: path.toList := List.isPrefixOf_iff_prefix
  by_cases h : isEcho path = true
  · rw [relativePath?, if_pos h]
    exact iff_of_false nofun fun hnames => hnames.notEcho (hecho.mp h)
  · rw [relativePath?, if_neg h, Path.map_remainder?_eq_some_iff]
    constructor
    · intro hleaves
      obtain ⟨stem, hstem⟩ := exists_isStem query
      exact ⟨mt hecho.mpr h, stem, hstem, hstem.queryComponents_eq ▸ hleaves⟩
    · rintro ⟨-, stem, hstem, hleaves⟩
      exact hstem.queryComponents_eq.symm ▸ hleaves

/-- **What a search finds.** A search holds a value under a name if and only if it is that of the
last entry, in path order, among those that the query names so: entries that are no echoes and
that leave the components of the name over at the leftmost place where the query, without one point
at its end, fits. Such a name is what stands behind some point of the path of the entry. -/
theorem find_last_named (s : PropertySet) (query rest value : String) :
    ((s.find query).get? rest = some value ↔
      ∃ path, s.get? path = some value ∧ Names query path rest ∧
        ∀ e ∈ s.entries, Names query e.1 rest → e.1 ≤ path) ∧
    ∀ path, Names query path rest → ∃ front, path = front ++ "." ++ rest := by
  refine ⟨?_, fun path hnames => ?_⟩
  · have hfind : s.find query = s.project (relativePath? (queryComponents query)) := rfl
    rw [hfind, Dictionary.get?_project]
    simp only [relativePath?_eq_some_iff]
  · obtain ⟨stem, -, hleaves⟩ := hnames.leaves
    exact hleaves.exists_front (Path.components_ne_nil stem)

/-- The leftmost place counts, a query that takes in a whole path leaves nothing over, and of
entries with the same name the last one counts. -/
example :
    let s : PropertySet := .ofList
      [("A.A1.x", "first"), ("B.A2.A1.x", "last"), ("C.A3", "none"), ("orig_B.A4.y", "echo")]
    (s.find "A*.").entries = [("A1.x", "last")] := by
  decide

end PropertySet

end TanDialog
