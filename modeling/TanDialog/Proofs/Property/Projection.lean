import Mathlib.Data.List.Basic
import TanDialog.Property.Set

/-!
# Components and projections

A path is its components, put together by points (`Path.components_eq_iff`). Searches in a property
set name the entries anew by some of their components; several entries may come by the same name,
and of these the last one in path order counts (`Dictionary.get?_project`).
-/

namespace TanDialog

/-! ### Components -/

theorem notMem_of_mem_splitOn {α : Type} [DecidableEq α] {a : α} {l piece : List α}
    (h : piece ∈ l.splitOn a) : a ∉ piece := by
  induction l generalizing piece with
  | nil =>
    rw [List.splitOn_nil, List.mem_singleton] at h
    subst h
    exact List.not_mem_nil
  | cons b l ih =>
    rw [List.splitOn_cons_eq_if_modifyHead] at h
    split at h
    case isTrue =>
      rcases List.mem_cons.mp h with rfl | h
      · exact List.not_mem_nil
      · exact ih h
    case isFalse hne =>
      obtain ⟨first, pieces, hsplit⟩ := List.exists_cons_of_ne_nil (List.splitOn_ne_nil a l)
      rw [hsplit, List.modifyHead_cons] at h
      rw [hsplit] at ih
      rcases List.mem_cons.mp h with rfl | h
      · have hba : a ≠ b := fun hab => hne (by simp [hab])
        exact List.not_mem_cons_of_ne_of_not_mem hba (ih List.mem_cons_self)
      · exact ih (List.mem_cons_of_mem _ h)

namespace Path

theorem components_ne_nil (path : String) : components path ≠ [] := by
  simp [components, List.splitOn_ne_nil]

@[simp]
theorem ofComponents_components (path : String) : ofComponents (components path) = path := by
  have hlists : (components path).map String.toList = path.toList.splitOn '.' := by
    simp [components, Function.comp_def]
  rw [ofComponents, hlists, List.intercalate_splitOn, String.ofList_toList]

theorem components_ofComponents {cs : List String} (hne : cs ≠ [])
    (hpoints : ∀ c ∈ cs, '.' ∉ c.toList) : components (ofComponents cs) = cs := by
  have hsplit : (['.'].intercalate (cs.map String.toList)).splitOn '.' = cs.map String.toList :=
    List.splitOn_intercalate '.' (by simpa using hpoints) (by simpa using hne)
  rw [components, ofComponents, String.toList_ofList, hsplit]
  simp [Function.comp_def]

/-- A path and its components determine each other. -/
theorem components_eq_iff {path : String} {cs : List String} :
    components path = cs ↔ path = ofComponents cs ∧ cs ≠ [] ∧ ∀ c ∈ cs, '.' ∉ c.toList := by
  constructor
  · rintro rfl
    refine ⟨(ofComponents_components path).symm, components_ne_nil path, fun c hc => ?_⟩
    obtain ⟨piece, hpiece, rfl⟩ := List.mem_map.mp hc
    simpa using notMem_of_mem_splitOn hpiece
  · rintro ⟨rfl, hne, hpoints⟩
    exact components_ofComponents hne hpoints

theorem components_append (first rest : String) :
    components (first ++ "." ++ rest) = components first ++ components rest := by
  have htext : (first ++ "." ++ rest).toList = first.toList ++ '.' :: rest.toList := by simp
  rw [components, htext, List.splitOn_append_cons_self, List.map_append]
  rfl

@[simp]
theorem ofComponents_singleton (c : String) : ofComponents [c] = c := by
  simp [ofComponents]

theorem components_eq_singleton {c : String} (h : '.' ∉ c.toList) : components c = [c] :=
  components_eq_iff.mpr ⟨(ofComponents_singleton c).symm, List.cons_ne_nil c [], by simpa using h⟩

theorem ofComponents_cons (c : String) {cs : List String} (h : cs ≠ []) :
    ofComponents (c :: cs) = c ++ "." ++ ofComponents cs := by
  apply String.toList_injective
  rw [ofComponents, List.map_cons, List.intercalate_cons_of_ne_nil (by simpa using h)]
  simp [ofComponents]

theorem ofComponents_append {cs ds : List String} (hcs : cs ≠ []) (hds : ds ≠ []) :
    ofComponents (cs ++ ds) = ofComponents cs ++ "." ++ ofComponents ds := by
  induction cs with
  | nil => exact absurd rfl hcs
  | cons c cs ih =>
    rw [List.cons_append, ofComponents_cons c (List.append_ne_nil_of_right_ne_nil _ hds)]
    rcases eq_or_ne cs [] with rfl | hne
    · rw [List.nil_append, ofComponents_singleton]
    · rw [ih hne, ofComponents_cons c hne]
      simp only [String.append_assoc]

/-- A path lies below another one if its components go on behind those of the other. -/
theorem isBelow_iff {path base : String} :
    isBelow path base ↔ ∃ rest ≠ [], components path = components base ++ rest := by
  rw [isBelow, List.isPrefixOf_iff_prefix]
  constructor
  · rintro ⟨rest, hrest⟩
    have hpath : path = base ++ "." ++ String.ofList rest := by
      apply String.toList_injective
      simp [← hrest]
    exact ⟨components (String.ofList rest), components_ne_nil _,
      hpath ▸ components_append base (String.ofList rest)⟩
  · rintro ⟨rest, hne, hcomponents⟩
    obtain ⟨hpath, -⟩ := components_eq_iff.mp hcomponents
    rw [ofComponents_append (components_ne_nil base) hne, ofComponents_components] at hpath
    exact ⟨(ofComponents rest).toList, by simp [hpath]⟩

end Path

/-! ### Projections -/

/-- The last one of the elements with a property. -/
theorem exists_last_of_exists_mem {α : Type} {p : α → Prop} {l : List α} (h : ∃ a ∈ l, p a) :
    ∃ l₁ a l₂, l = l₁ ++ a :: l₂ ∧ p a ∧ ∀ b ∈ l₂, ¬ p b := by
  induction l with
  | nil => simp at h
  | cons b l ih =>
    by_cases hl : ∃ a ∈ l, p a
    · obtain ⟨l₁, a, l₂, rfl, ha, hlast⟩ := ih hl
      exact ⟨b :: l₁, a, l₂, rfl, ha, hlast⟩
    · obtain ⟨a, ha, hpa⟩ := h
      rcases List.mem_cons.mp ha with rfl | ha
      · exact ⟨[], a, l, rfl, hpa, fun c hc hpc => hl ⟨c, hc, hpc⟩⟩
      · exact absurd ⟨a, ha, hpa⟩ hl

namespace Dictionary

variable {α : Type} {d : Dictionary α} {name? : String → Option String} {name : String}

theorem get?_insertAll_of_forall_ne (d : Dictionary α) {l : List (String × α)} {key : String}
    (h : ∀ e ∈ l, e.1 ≠ key) : (d.insertAll l).get? key = d.get? key := by
  induction l generalizing d with
  | nil => rfl
  | cons e l ih =>
    rw [insertAll_cons, ih _ fun e' he' => h e' (by simp [he']),
      get?_insert_of_ne d e.2 (h e (by simp)).symm]

/-- The last entry for a key counts. -/
theorem get?_insertAll_of_last (d : Dictionary α) {l₁ l₂ : List (String × α)} {key : String}
    (value : α) (h : ∀ e ∈ l₂, e.1 ≠ key) :
    (d.insertAll (l₁ ++ (key, value) :: l₂)).get? key = some value := by
  rw [insertAll_append, insertAll_cons, get?_insertAll_of_forall_ne _ h, get?_insert_self]

/-- A value that is inserted under a key, and no other value with it, is found there. -/
theorem get?_insertAll_of_mem (d : Dictionary α) {l : List (String × α)} {key : String} {value : α}
    (hmem : (key, value) ∈ l) (hunique : ∀ v, (key, v) ∈ l → v = value) :
    (d.insertAll l).get? key = some value := by
  obtain ⟨l₁, e, l₂, rfl, rfl, hlast⟩ :=
    exists_last_of_exists_mem (p := fun e => e.1 = key) ⟨(key, value), hmem, rfl⟩
  obtain rfl : e.2 = value := hunique e.2 (by simp)
  exact d.get?_insertAll_of_last e.2 hlast

/-- The entries of a dictionary make it up again, in whatever order they are inserted. -/
theorem ofList_eq_of_perm {l : List (String × α)} (h : l.Perm d.entries) : ofList l = d := by
  refine ext_get? fun key => ?_
  cases hkey : d.get? key with
  | none =>
    refine get?_insertAll_of_forall_ne ∅ fun e he heq => ?_
    have hget : d.get? key = some e.2 := get?_eq_some_iff.mpr (heq ▸ h.mem_iff.mp he)
    exact Option.some_ne_none _ (hget.symm.trans hkey)
  | some value =>
    refine get?_insertAll_of_mem ∅ (h.mem_iff.mpr (get?_eq_some_iff.mp hkey)) fun v hv => ?_
    have hget : d.get? key = some v := get?_eq_some_iff.mpr (h.mem_iff.mp hv)
    exact Option.some.inj (hget.symm.trans hkey)

/-- The values under new names; those without one are left out. -/
def project (name? : String → Option String) (d : Dictionary α) : Dictionary α :=
  ofList (d.entries.filterMap fun e => (name? e.1).map fun name => (name, e.2))

/-- The last entry whose key has a property has the greatest one. -/
theorem le_of_last {p : String → Prop} {l₁ l₂ : List (String × α)} {e e' : String × α}
    (hl : d.entries = l₁ ++ e :: l₂) (hlast : ∀ b ∈ l₂, ¬ p b.1) (he' : e' ∈ d.entries)
    (hp : p e'.1) : e'.1 ≤ e.1 := by
  have hsorted := d.sorted
  rw [hl] at hsorted he'
  rcases List.mem_append.mp he' with hmem | hmem
  · exact Std.le_of_lt ((List.pairwise_append.mp hsorted).2.2 e' hmem e List.mem_cons_self)
  · rcases List.mem_cons.mp hmem with rfl | hmem
    · exact Std.le_refl _
    · exact absurd hp (hlast e' hmem)

/-- Of the values that come by a name the one at the greatest key counts. -/
theorem exists_get?_project (h : ∃ e ∈ d.entries, name? e.1 = some name) :
    ∃ e ∈ d.entries, name? e.1 = some name ∧
      (∀ e' ∈ d.entries, name? e'.1 = some name → e'.1 ≤ e.1) ∧
      (d.project name?).get? name = some e.2 := by
  obtain ⟨l₁, e, l₂, hl, he, hlast⟩ := exists_last_of_exists_mem h
  refine ⟨e, by simp [hl], he, fun e' he' hname =>
    le_of_last (p := fun k => name? k = some name) hl hlast he' hname, ?_⟩
  rw [project, hl, List.filterMap_append, List.filterMap_cons, he]
  refine get?_insertAll_of_last ∅ e.2 fun e' he' heq => ?_
  obtain ⟨b, hb, hmap⟩ := List.mem_filterMap.mp he'
  obtain ⟨name', hname', rfl⟩ := Option.map_eq_some_iff.mp hmap
  exact hlast b hb (hname'.trans (congrArg some heq))

theorem get?_project_eq_none (h : ¬ ∃ e ∈ d.entries, name? e.1 = some name) :
    (d.project name?).get? name = none := by
  refine (get?_insertAll_of_forall_ne ∅ fun e he heq => ?_).trans (get?_empty name)
  obtain ⟨b, hb, hmap⟩ := List.mem_filterMap.mp he
  obtain ⟨name', hname', rfl⟩ := Option.map_eq_some_iff.mp hmap
  exact h ⟨b, hb, hname'.trans (congrArg some heq)⟩

/-- What is found under a name is the value at the greatest key that comes by it. -/
theorem get?_project {value : α} :
    (d.project name?).get? name = some value ↔
      ∃ key, d.get? key = some value ∧ name? key = some name ∧
        ∀ e ∈ d.entries, name? e.1 = some name → e.1 ≤ key := by
  by_cases hsome : ∃ e ∈ d.entries, name? e.1 = some name
  · obtain ⟨⟨key, last⟩, hmem, hkey, hgreatest, hproject⟩ := exists_get?_project hsome
    have hget : d.get? key = some last := get?_eq_some_iff.mpr hmem
    rw [hproject]
    constructor
    · intro h
      exact ⟨key, h ▸ hget, hkey, hgreatest⟩
    · rintro ⟨key', hget', hname', hgreatest'⟩
      have hkeys : key = key' :=
        Std.le_antisymm (hgreatest' _ hmem hkey) (hgreatest _ (get?_eq_some_iff.mp hget') hname')
      rw [← hget, hkeys, hget']
  · rw [get?_project_eq_none hsome]
    refine iff_of_false (by simp) ?_
    rintro ⟨key, hget, hname, -⟩
    exact hsome ⟨_, get?_eq_some_iff.mp hget, hname⟩

end Dictionary

end TanDialog
