import TanDialog.Method.Catalog
import TanDialog.Proofs.Property.Projection

/-!
# Declarations of methods

Which paths of the bank parameters declare a method, and in which version, is said by their form
(`Declaration.Declares`). A declaration knows its path, so that all declarations come in path order
and nothing is lost of the entries that declare something (`Declaration.mem_allIn`). The attributes
of a method are the leaves of its group (`Declaration.IsLeaf`), each by its name.
-/

namespace TanDialog.Declaration

/-! ### The form of a declaring path -/

/-- A path of five components that declares a method. The version stands in the second one, from the
mark to the first underscore or to the end. -/
def Declares (path : String) (version : Nat) : Prop :=
  ∃ params numeral suffix entry : String,
    path = Path.ofComponents ["Params" ++ params, "TAN2StepPar" ++ numeral ++ suffix,
      "ParTAN2Step", "TAN2StepParams" ++ entry, "secfunc"] ∧
    (∀ part ∈ [params, numeral, suffix, entry], '.' ∉ part.toList) ∧
    '_' ∉ numeral.toList ∧ (suffix = "" ∨ ∃ rest, suffix = "_" ++ rest) ∧
    Numeral.decimal? Numeral.bound32 numeral.toList = some version

theorem isPrefixOf_toList_iff {s t : String} :
    s.toList.isPrefixOf t.toList ↔ ∃ rest, t = s ++ rest := by
  rw [List.isPrefixOf_iff_prefix]
  constructor
  · rintro ⟨rest, hrest⟩
    exact ⟨String.ofList rest, String.toList_injective (by simp [← hrest])⟩
  · rintro ⟨rest, rfl⟩
    exact ⟨rest.toList, by simp⟩

theorem versionOf?_eq_some_iff {component : String} {version : Nat} :
    versionOf? component = some version ↔
      ∃ numeral suffix : String, component = "TAN2StepPar" ++ numeral ++ suffix ∧
        '_' ∉ numeral.toList ∧ (suffix = "" ∨ ∃ rest, suffix = "_" ++ rest) ∧
        Numeral.decimal? Numeral.bound32 numeral.toList = some version := by
  unfold versionOf?
  constructor
  · intro h
    dsimp only at h
    split at h
    case isTrue hmark =>
      obtain ⟨rest, rfl⟩ := isPrefixOf_toList_iff.mp hmark
      have hrest :
          ("TAN2StepPar" ++ rest).toList.drop "TAN2StepPar".toList.length = rest.toList := by
        rw [String.toList_append, List.drop_left]
      rw [hrest] at h
      refine ⟨String.ofList (rest.toList.takeWhile (· ≠ '_')),
        String.ofList (rest.toList.dropWhile (· ≠ '_')), ?_, ?_, ?_, by simpa using h⟩
      · apply String.toList_injective
        simp
      · rw [String.toList_ofList]
        intro hmem
        simpa using List.all_eq_true.mp List.all_takeWhile _ hmem
      · rcases hd : rest.toList.dropWhile (· ≠ '_') with _ | ⟨c, cs⟩
        · exact .inl rfl
        · have hhead := List.head?_dropWhile_not (· ≠ '_') rest.toList
          rw [hd] at hhead
          obtain rfl : c = '_' := by simpa using hhead
          exact .inr ⟨String.ofList cs, String.toList_injective (by simp)⟩
    case isFalse => cases h
  · rintro ⟨numeral, suffix, rfl, hnumeral, hsuffix, hversion⟩
    dsimp only
    have hmark : "TAN2StepPar".toList.isPrefixOf
        ("TAN2StepPar" ++ numeral ++ suffix).toList = true :=
      isPrefixOf_toList_iff.mpr ⟨numeral ++ suffix, by rw [String.append_assoc]⟩
    have hrest : ("TAN2StepPar" ++ numeral ++ suffix).toList.drop "TAN2StepPar".toList.length =
        numeral.toList ++ suffix.toList := by
      rw [String.append_assoc, String.toList_append, List.drop_left, String.toList_append]
    have hend : suffix.toList.takeWhile (· ≠ '_') = [] := by
      rcases hsuffix with rfl | ⟨rest, rfl⟩
      · rfl
      · simp
    have hbefore : ∀ c ∈ numeral.toList, decide (c ≠ '_') = true := fun c hc =>
      decide_eq_true (ne_of_mem_of_not_mem hc hnumeral)
    rw [if_pos hmark, hrest, List.takeWhile_append_of_pos hbefore, hend, List.append_nil, hversion]

theorem components_of_form {params numeral suffix entry : String}
    (h : ∀ part ∈ [params, numeral, suffix, entry], '.' ∉ part.toList) :
    Path.components (Path.ofComponents ["Params" ++ params, "TAN2StepPar" ++ numeral ++ suffix,
        "ParTAN2Step", "TAN2StepParams" ++ entry, "secfunc"]) =
      ["Params" ++ params, "TAN2StepPar" ++ numeral ++ suffix, "ParTAN2Step",
        "TAN2StepParams" ++ entry, "secfunc"] := by
  refine Path.components_ofComponents (by simp) ?_
  simp only [List.mem_cons, List.not_mem_nil, or_false, forall_eq_or_imp, forall_eq,
    String.toList_append, List.mem_append, not_or] at h ⊢
  exact ⟨⟨by decide, h.1⟩, ⟨⟨by decide, h.2.1⟩, h.2.2.1⟩, by decide, ⟨by decide, h.2.2.2⟩,
    by decide⟩

theorem pathVersion?_eq_some_iff {path : String} {version : Nat} :
    pathVersion? path = some version ↔ Declares path version := by
  unfold pathVersion?
  constructor
  · intro h
    split at h
    case h_1 first par group entry field hcomponents =>
      split at h
      case isTrue hform =>
        simp only [Bool.and_eq_true, beq_iff_eq, isPrefixOf_toList_iff] at hform
        obtain ⟨⟨⟨⟨params, rfl⟩, rfl⟩, ⟨entry, rfl⟩⟩, rfl⟩ := hform
        obtain ⟨numeral, suffix, rfl, hnumeral, hsuffix, hversion⟩ := versionOf?_eq_some_iff.mp h
        obtain ⟨hpath, -, hpoints⟩ := Path.components_eq_iff.mp hcomponents
        refine ⟨params, numeral, suffix, entry, hpath, ?_, hnumeral, hsuffix, hversion⟩
        simp only [List.mem_cons, List.not_mem_nil, or_false, forall_eq_or_imp, forall_eq,
          String.toList_append, List.mem_append, not_or] at hpoints ⊢
        exact ⟨hpoints.1.2, hpoints.2.1.1.2, hpoints.2.1.2, hpoints.2.2.2.1.2⟩
      case isFalse => cases h
    case h_2 => cases h
  · rintro ⟨params, numeral, suffix, entry, rfl, hpoints, hnumeral, hsuffix, hversion⟩
    have hform : ("Params".toList.isPrefixOf ("Params" ++ params).toList &&
        "ParTAN2Step" == "ParTAN2Step" &&
        "TAN2StepParams".toList.isPrefixOf ("TAN2StepParams" ++ entry).toList &&
        "secfunc" == "secfunc") = true := by
      simp only [Bool.and_eq_true, beq_iff_eq, isPrefixOf_toList_iff, and_true]
      exact ⟨⟨params, rfl⟩, entry, rfl⟩
    rw [components_of_form hpoints]
    dsimp only
    rw [if_pos hform]
    exact versionOf?_eq_some_iff.mpr ⟨numeral, suffix, rfl, hnumeral, hsuffix, hversion⟩

/-! ### The declarations of bank parameters -/

/-- The path at which a declaration is made. -/
def path (d : Declaration) : String := d.group ++ "." ++ "secfunc"

theorem path_of_declares {path : String} {version : Nat} (h : Declares path version) :
    Path.ofComponents (Path.components path).dropLast ++ "." ++ "secfunc" = path := by
  obtain ⟨params, numeral, suffix, entry, rfl, hpoints, -⟩ := h
  rw [components_of_form hpoints, ← Path.ofComponents_singleton "secfunc",
    ← Path.ofComponents_append (by simp) (by simp)]
  rfl

theorem group_eq (d : Declaration) :
    Path.ofComponents (Path.components d.path).dropLast = d.group := by
  have hlast : Path.components "secfunc" = ["secfunc"] := by decide
  rw [path, Path.components_append, hlast, List.dropLast_concat, Path.ofComponents_components]

/-- A declaration holds all that an entry says. -/
theorem reads_entry_iff {e : String × String} {d : Declaration} :
    ofEntry? e = some d ↔ e = (d.path, d.id) ∧ Declares d.path d.version := by
  unfold ofEntry?
  rw [Option.map_eq_some_iff]
  constructor
  · rintro ⟨version, hversion, rfl⟩
    have hdeclares := pathVersion?_eq_some_iff.mp hversion
    have hpath := path_of_declares hdeclares
    exact ⟨Prod.ext hpath.symm rfl, by rw [path, hpath]; exact hdeclares⟩
  · rintro ⟨rfl, hdeclares⟩
    exact ⟨d.version, pathVersion?_eq_some_iff.mpr hdeclares, by rw [group_eq]⟩

/-- The declarations are what the entries at declaring paths say. -/
theorem mem_allIn {bpd : PropertySet} {d : Declaration} :
    d ∈ allIn bpd ↔ bpd.get? d.path = some d.id ∧ Declares d.path d.version := by
  rw [allIn, List.mem_filterMap, Dictionary.get?_eq_some_iff]
  constructor
  · rintro ⟨e, he, hd⟩
    obtain ⟨rfl, hdeclares⟩ := reads_entry_iff.mp hd
    exact ⟨he, hdeclares⟩
  · rintro ⟨he, hdeclares⟩
    exact ⟨_, he, reads_entry_iff.mpr ⟨rfl, hdeclares⟩⟩

theorem pairwise_allIn (bpd : PropertySet) : (allIn bpd).Pairwise (·.path < ·.path) := by
  refine bpd.sorted.filterMap ofEntry? fun e e' hlt d hd d' hd' => ?_
  rwa [(reads_entry_iff.mp hd).1, (reads_entry_iff.mp hd').1] at hlt

/-! ### Attributes -/

/-- A path is a leaf of a group: its components are those of the group, some more, and the name of
the leaf. -/
def IsLeaf (group name path : String) : Prop :=
  ∃ between, Path.components path = Path.components group ++ between ++ [name]

/-- The name of a leaf. -/
def leafName? (group path : String) : Option String :=
  if Path.isBelow path group then some (Path.lastComponent path) else none

theorem leafName?_eq_some_iff {group name path : String} :
    leafName? group path = some name ↔ IsLeaf group name path := by
  rw [leafName?, Option.ite_none_right_eq_some, Option.some.injEq, Path.isBelow_iff,
    Path.lastComponent]
  constructor
  · rintro ⟨⟨rest, hne, hrest⟩, rfl⟩
    refine ⟨rest.dropLast, ?_⟩
    rw [hrest, List.getLastD_eq_getLast?, List.getLast?_append_of_ne_nil _ hne,
      List.getLast?_eq_getLast_of_ne_nil hne, Option.getD_some, List.append_assoc,
      List.dropLast_append_getLast hne]
  · rintro ⟨between, hpath⟩
    rw [hpath]
    exact ⟨⟨between ++ [name], by simp, by rw [List.append_assoc]⟩, by simp⟩

theorem leaves_eq_project (bpd : PropertySet) (group : String) :
    leaves bpd group = bpd.project (leafName? group) := by
  rw [leaves, Dictionary.project, PropertySet.below]
  congr 1
  induction bpd.entries with
  | nil => rfl
  | cons e l ih =>
    by_cases hbelow : Path.isBelow e.1 group <;> simp [leafName?, hbelow, ih]

/-- The attributes of a declared method: the leaves of the group, of equal names the last path, and
the version in place of a leaf of that name. -/
theorem attr?_method {bpd : PropertySet} {d : Declaration} {name value : String} :
    (d.method bpd).attr? name = some value ↔
      if name = Method.versionAttr then value = toString d.version
      else ∃ path, bpd.get? path = some value ∧ IsLeaf d.group name path ∧
        ∀ e ∈ bpd.entries, IsLeaf d.group name e.1 → e.1 ≤ path := by
  rw [method, Method.attr?, Method.withVersion, Dictionary.get?_insert]
  split
  case isTrue => rw [Option.some.injEq, eq_comm]
  case isFalse =>
    rw [leaves_eq_project, Dictionary.get?_project]
    simp only [leafName?_eq_some_iff]

end TanDialog.Declaration
