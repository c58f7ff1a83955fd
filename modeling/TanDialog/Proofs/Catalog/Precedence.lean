import TanDialog.Proofs.Catalog
import TanDialog.Proofs.Catalog.Declarations

/-!
# Which declaration counts

A method may be declared many times. Of its declarations that the ceiling admits, those in the
highest version take precedence, and of these the last one in path order (`Declaration.GivesWay`).
The catalog considers one declaration after the other in path order, where `_10` comes before `_2`,
and yet ends with the one that takes precedence over all others: what has been considered so far is
reflected in the catalog at every moment (`Catalog.Reflects.consider`), and so in the end everything
is (`Catalog.declared_methods`).
-/

namespace TanDialog

/-- A version is not above the ceiling. -/
def UpTo (ceiling : Option Nat) (version : Nat) : Prop :=
  ∀ limit, ceiling = some limit → version ≤ limit

/-- A declaration takes precedence over another one, or is the same. -/
def Declaration.GivesWay (e d : Declaration) : Prop :=
  e.version < d.version ∨ e.version = d.version ∧ e.path ≤ d.path

namespace Catalog

variable {ceiling : Option Nat} {bpd : PropertySet} {c : Catalog} {ds : List Declaration}
  {d : Declaration} {id : String}

/-- Of some declarations of a method, the one that counts. -/
structure Counts (ceiling : Option Nat) (ds : List Declaration) (id : String) (d : Declaration) :
    Prop where
  mem : d ∈ ds
  id_eq : d.id = id
  upTo : UpTo ceiling d.version
  first : ∀ e ∈ ds, e.id = id → UpTo ceiling e.version → e.GivesWay d

/-- The catalog holds what some declarations come to, and nothing else. -/
structure Reflects (ceiling : Option Nat) (bpd : PropertySet) (ds : List Declaration)
    (c : Catalog) : Prop where
  held : ∀ id m, c.get? id = some m → ∃ d, Counts ceiling ds id d ∧ m = d.method bpd
  missing : ∀ id, c.get? id = none → ∀ d ∈ ds, d.id = id → ¬ UpTo ceiling d.version

/-! ### Considering one declaration -/

theorem consider_of_not_upTo (h : ¬ UpTo ceiling d.version) :
    c.consider ceiling bpd d = c := by
  obtain ⟨limit, hlimit, habove⟩ : ∃ limit, ceiling = some limit ∧ limit < d.version := by
    simpa [UpTo] using h
  rw [Catalog.consider, verdict, hlimit, Option.filter_some_pos (by simpa using habove)]

theorem consider_of_superseded {prior : Method} (hprior : c.get? d.id = some prior)
    (h : d.version < prior.version) : c.consider ceiling bpd d = c := by
  rw [Catalog.consider, verdict, hprior, Option.filter_some_pos (by simpa using h)]
  split
  case h_1 htaken =>
    split at htaken
    · cases htaken
    · cases htaken
  case h_2 => rfl

theorem consider_of_taken (hupTo : UpTo ceiling d.version)
    (h : ∀ prior, c.get? d.id = some prior → prior.version ≤ d.version) :
    c.consider ceiling bpd d = c.insert d.id (d.method bpd) := by
  have hceiling : ceiling.filter (· < d.version) = none :=
    Option.filter_eq_none_iff.mpr fun limit hlimit => by
      simpa using hupTo limit hlimit
  have hprior : (c.get? d.id).filter (d.version < ·.version) = none :=
    Option.filter_eq_none_iff.mpr fun prior hprior => by
      simpa using h prior hprior
  rw [Catalog.consider, verdict, hceiling, hprior]

/-! ### Considering all of them -/

theorem Counts.append (h : Counts ceiling ds id d) {e : Declaration}
    (he : e.id = id → UpTo ceiling e.version → e.GivesWay d) : Counts ceiling (ds ++ [e]) id d where
  mem := List.mem_append_left _ h.mem
  id_eq := h.id_eq
  upTo := h.upTo
  first := fun f hf hid hupTo => by
    rcases List.mem_append.mp hf with hf | hf
    · exact h.first f hf hid hupTo
    · obtain rfl := List.mem_singleton.mp hf
      exact he hid hupTo

/-- A declaration that comes last and is in no lower version than those before counts. -/
theorem counts_last (hupTo : UpTo ceiling d.version)
    (hpath : ∀ e ∈ ds, e.path < d.path)
    (hversion : ∀ e ∈ ds, e.id = d.id → UpTo ceiling e.version → e.version ≤ d.version) :
    Counts ceiling (ds ++ [d]) d.id d where
  mem := List.mem_append_right _ List.mem_cons_self
  id_eq := rfl
  upTo := hupTo
  first := fun e he hid hupTo => by
    rcases List.mem_append.mp he with he | he
    · exact (Nat.lt_or_eq_of_le (hversion e he hid hupTo)).imp id fun heq =>
        ⟨heq, Std.le_of_lt (hpath e he)⟩
    · obtain rfl := List.mem_singleton.mp he
      exact .inr ⟨rfl, Std.le_refl _⟩

namespace Reflects

theorem nil : Reflects ceiling bpd [] ∅ where
  held := fun _ _ h => nomatch h
  missing := fun _ _ _ h => nomatch h

/-- A declaration that leaves the catalog as it is has to be one that does not count. -/
theorem of_unchanged (h : Reflects ceiling bpd ds c)
    (hprior : UpTo ceiling d.version → ∃ prior, c.get? d.id = some prior ∧
      d.version < prior.version) : Reflects ceiling bpd (ds ++ [d]) c where
  held := fun id m hm => by
    obtain ⟨e, he, rfl⟩ := h.held id m hm
    refine ⟨e, he.append fun hid hupTo => .inl ?_, rfl⟩
    obtain ⟨prior, hget, hlt⟩ := hprior hupTo
    rw [hid, hm] at hget
    rwa [← Option.some.inj hget] at hlt
  missing := fun id hnone e he hid hupTo => by
    rcases List.mem_append.mp he with he | he
    · exact h.missing id hnone e he hid hupTo
    · obtain rfl := List.mem_singleton.mp he
      obtain ⟨prior, hget, -⟩ := hprior hupTo
      rw [hid, hnone] at hget
      cases hget

/-- One more declaration in path order. -/
theorem consider (h : Reflects ceiling bpd ds c) (hpath : ∀ e ∈ ds, e.path < d.path) :
    Reflects ceiling bpd (ds ++ [d]) (c.consider ceiling bpd d) := by
  by_cases hupTo : UpTo ceiling d.version
  · by_cases hprior : ∃ prior, c.get? d.id = some prior ∧ d.version < prior.version
    · obtain ⟨prior, hget, hlt⟩ := hprior
      rw [consider_of_superseded hget hlt]
      exact h.of_unchanged fun _ => ⟨prior, hget, hlt⟩
    · have hnone : ∀ prior, c.get? d.id = some prior → prior.version ≤ d.version :=
        fun prior hget => Nat.le_of_not_lt fun hlt => hprior ⟨prior, hget, hlt⟩
      rw [consider_of_taken hupTo hnone]
      -- what was held for the method, if anything, is in no higher version
      have hversion : ∀ e ∈ ds, e.id = d.id → UpTo ceiling e.version →
          e.version ≤ d.version := by
        intro e he hid hupTo
        cases hget : c.get? d.id with
        | none => exact absurd hupTo (h.missing d.id hget e he hid)
        | some prior =>
          obtain ⟨f, hf, rfl⟩ := h.held d.id prior hget
          have hle : f.version ≤ d.version := hnone _ hget
          rcases hf.first e he hid hupTo with hlt | ⟨heq, -⟩
          · exact Nat.le_trans (Nat.le_of_lt hlt) hle
          · exact Nat.le_trans (Nat.le_of_eq heq) hle
      constructor
      · intro id m hm
        rw [Dictionary.get?_insert] at hm
        split at hm
        case isTrue hid =>
          obtain rfl := hid
          exact ⟨d, counts_last hupTo hpath hversion, (Option.some.inj hm).symm⟩
        case isFalse hid =>
          obtain ⟨e, he, rfl⟩ := h.held id m hm
          exact ⟨e, he.append fun h => absurd h.symm hid, rfl⟩
      · intro id hmissing e he hid
        rw [Dictionary.get?_insert] at hmissing
        split at hmissing
        case isTrue => cases hmissing
        case isFalse hne =>
          rcases List.mem_append.mp he with he | he
          · exact h.missing id hmissing e he hid
          · obtain rfl := List.mem_singleton.mp he
            exact absurd hid.symm hne
  · rw [consider_of_not_upTo hupTo]
    exact h.of_unchanged fun hupTo' => absurd hupTo' hupTo

/-- All declarations in path order. -/
theorem foldl {rest : List Declaration} (h : Reflects ceiling bpd ds c)
    (hpath : (ds ++ rest).Pairwise (·.path < ·.path)) :
    Reflects ceiling bpd (ds ++ rest) (rest.foldl (Catalog.consider ceiling bpd) c) := by
  induction rest generalizing ds c with
  | nil => simpa using h
  | cons d rest ih =>
    have hlt : ∀ e ∈ ds, e.path < d.path := fun e he =>
      (List.pairwise_append.mp hpath).2.2 e he d List.mem_cons_self
    rw [List.append_cons] at hpath ⊢
    exact ih (h.consider hlt) hpath

end Reflects

theorem reflects_ofBankParameters (ceiling : Option Nat) (bpd : PropertySet) :
    Reflects ceiling bpd (Declaration.allIn bpd) (ofBankParameters ceiling bpd) :=
  Reflects.nil.foldl (Declaration.pairwise_allIn bpd)

/-! ### The catalog of some bank parameters -/

/-- An entry of the bank parameters declares a method in a version that is not above the ceiling. -/
structure Admits (ceiling : Option Nat) (bpd : PropertySet) (id path : String) (version : Nat) :
    Prop where
  entry : bpd.get? path = some id
  declares : Declaration.Declares path version
  upTo : UpTo ceiling version

theorem admits_of_mem_allIn (h : d ∈ Declaration.allIn bpd) (hupTo : UpTo ceiling d.version) :
    Admits ceiling bpd d.id d.path d.version :=
  ⟨(Declaration.mem_allIn.mp h).1, (Declaration.mem_allIn.mp h).2, hupTo⟩

theorem exists_mem_allIn_of_admits {path : String} {version : Nat}
    (h : Admits ceiling bpd id path version) :
    ∃ d ∈ Declaration.allIn bpd, d.id = id ∧ d.path = path ∧ d.version = version := by
  have hpath := Declaration.path_of_declares h.declares
  refine ⟨⟨id, version, Path.ofComponents (Path.components path).dropLast⟩,
    Declaration.mem_allIn.mpr ?_, rfl, hpath, rfl⟩
  rw [Declaration.path, hpath]
  exact ⟨h.entry, h.declares⟩

/-- **The methods of some bank parameters.** New bank parameters replace the catalog, whatever it
held before. A method is in the new one exactly if some entry declares it in a version that is not
above the ceiling. Its version is the highest one of these declarations, and its attributes are
those of the last of them in path order that is in this version: the leaves of its group, each by
its name, of leaves of one name the last in path order, and the version under a name of its own. -/
theorem declared_methods (p : Passport) (bpd : PropertySet) (id : String) :
    let ceiling := p.config.maxVersion
    let catalog := (p.setBankParameters bpd).catalog
    (catalog.contains id ↔ ∃ path version, Admits ceiling bpd id path version) ∧
    ∀ m, catalog.get? id = some m →
      m.id = id ∧ ∃ group,
        Admits ceiling bpd id (group ++ "." ++ "secfunc") m.version ∧
        (∀ path version, Admits ceiling bpd id path version →
          version < m.version ∨
            version = m.version ∧ path ≤ group ++ "." ++ "secfunc") ∧
        ∀ name value, m.attr? name = some value ↔
          if name = "segversion" then value = toString m.version
          else ∃ path, bpd.get? path = some value ∧ Declaration.IsLeaf group name path ∧
            ∀ e ∈ bpd.entries, Declaration.IsLeaf group name e.1 → e.1 ≤ path := by
  intro ceiling catalog
  have hreflects : Reflects ceiling bpd (Declaration.allIn bpd) catalog :=
    reflects_ofBankParameters ceiling bpd
  constructor
  · rw [Dictionary.contains, Option.isSome_iff_exists]
    constructor
    · rintro ⟨m, hm⟩
      obtain ⟨d, hd, -⟩ := hreflects.held id m hm
      exact ⟨_, _, hd.id_eq ▸ admits_of_mem_allIn hd.mem hd.upTo⟩
    · rintro ⟨path, version, h⟩
      obtain ⟨d, hd, hid, -, rfl⟩ := exists_mem_allIn_of_admits h
      refine Option.ne_none_iff_exists'.mp fun hnone => ?_
      exact hreflects.missing id hnone d hd hid h.upTo
  · intro m hm
    obtain ⟨d, hd, rfl⟩ := hreflects.held id m hm
    refine ⟨hd.id_eq, d.group, hd.id_eq ▸ admits_of_mem_allIn hd.mem hd.upTo,
      fun path version h => ?_, fun name value => Declaration.attr?_method⟩
    obtain ⟨e, he, hid, rfl, rfl⟩ := exists_mem_allIn_of_admits h
    exact hd.first e he hid h.upTo

/-- Bank parameters that declare one method three times: once above a ceiling of six, and twice in
version six. In path order `Params_10` comes before `Params_2`. -/
def repeatedParameters : PropertySet :=
  .ofList
    [("Params_10.TAN2StepPar6.ParTAN2Step.TAN2StepParams.secfunc", "912"),
      ("Params_10.TAN2StepPar6.ParTAN2Step.TAN2StepParams.process", "2"),
      ("Params_2.TAN2StepPar6_2.ParTAN2Step.TAN2StepParams.secfunc", "912"),
      ("Params_3.TAN2StepPar7.ParTAN2Step.TAN2StepParams.secfunc", "912")]

/-- The second declaration in version six counts, and nothing of the others is mixed in. -/
theorem declared_methods_repeated :
    ∃ m, ((Passport.new { maxVersion := some 6 }).setBankParameters repeatedParameters).catalog.get?
        "912" = some m ∧
      m.id = "912" ∧ m.version = 6 ∧ m.attr? "secfunc" = some "912" ∧ m.attr? "process" = none ∧
      ∃ group, Admits (some 6) repeatedParameters "912" (group ++ "." ++ "secfunc") 6 := by
  have hm : ((Passport.new { maxVersion := some 6 }).setBankParameters
      repeatedParameters).catalog.get? "912" =
        some ⟨"912", 6, .ofList [("secfunc", "912"), ("segversion", "6")]⟩ := by decide +kernel
  obtain ⟨hid, group, hadmits, -⟩ := (declared_methods _ _ "912").2 _ hm
  exact ⟨_, hm, hid, rfl, rfl, rfl, group, hadmits⟩

end Catalog

end TanDialog
