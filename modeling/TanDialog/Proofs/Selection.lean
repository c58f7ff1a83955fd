import TanDialog.Proofs.Catalog
import TanDialog.Proofs.Operations

/-!
# Which method comes into use

When the method in use is to be checked again, one of three things happens. The user is asked
(`Passport.MustAsk`), or there is nothing to choose (`Passport.NoChoice`), or a choice that the user
has made before stands (`Passport.ChoiceStands`). One equation for each of them tells the answer and
the session after it, and `Passport.method_selection` reads off what holds in all of them: what is
asked, what can come into use, when the passport refuses, and what stays as it is.
-/

namespace TanDialog.Passport

/-! ### The three cases -/

/-- The user has chosen the method in use, and it is still among the candidates. -/
def ChoiceStands (p : Passport) : Prop :=
  p.autoSelected = false ∧ ∃ id, p.current = some id ∧ id ∈ p.candidates.map (·.id)

/-- The user has to choose: only the catalog is there to choose from, or there are several
candidates and no choice among them that stands. -/
def MustAsk (p : Passport) : Prop :=
  p.candidates = [] ∧ p.fallback ≠ [] ∨ 2 ≤ p.candidates.length ∧ ¬p.ChoiceStands

/-- There is nothing to choose: just one candidate, or no method at all. -/
def NoChoice (p : Passport) : Prop :=
  p.candidates.length = 1 ∨ p.candidates = [] ∧ p.fallback = []

/-- What the user is offered: the candidates if there are any, and else the whole catalog. -/
def offer (p : Passport) : List MethodOption :=
  if p.candidates = [] then p.fallback else p.candidates

variable {p : Passport}

theorem offer_of_candidates_eq_nil (h : p.candidates = []) : p.offer = p.fallback := if_pos h

theorem offer_of_candidates_ne_nil (h : p.candidates ≠ []) : p.offer = p.candidates := if_neg h

/-- Where there is nothing to choose, the user is not asked. -/
theorem NoChoice.not_mustAsk (h : p.NoChoice) : ¬p.MustAsk := by
  rintro (⟨hnil, hne⟩ | ⟨hmany, -⟩) <;> rcases h with hone | ⟨hnil', hempty⟩
  · simp [hnil] at hone
  · exact hne hempty
  · omega
  · simp [hnil'] at hmany

/-- A choice that stands spares the user the question. -/
theorem not_mustAsk_of_choiceStands (hmany : 2 ≤ p.candidates.length) (h : p.ChoiceStands) :
    ¬p.MustAsk := by
  rintro (⟨hnil, -⟩ | ⟨-, hstands⟩)
  · simp [hnil] at hmany
  · exact hstands h

/-- The three cases are all there are. -/
theorem mustAsk_or_noChoice_or_choiceStands (p : Passport) :
    p.MustAsk ∨ p.NoChoice ∨ 2 ≤ p.candidates.length ∧ p.ChoiceStands := by
  rcases Nat.lt_trichotomy p.candidates.length 1 with hlt | hone | hmany
  · have hnil : p.candidates = [] := List.length_eq_zero_iff.mp (by omega)
    by_cases hempty : p.fallback = []
    · exact .inr (.inl (.inr ⟨hnil, hempty⟩))
    · exact .inl (.inl ⟨hnil, hempty⟩)
  · exact .inr (.inl (.inl hone))
  · by_cases hstands : p.ChoiceStands
    · exact .inr (.inr ⟨hmany, hstands⟩)
    · exact .inl (.inr ⟨hmany, hstands⟩)

/-- The one-step method comes first, and the methods of the catalog follow in its order, which is
that of their identifiers. -/
theorem exists_offer_eq (p : Passport) :
    ∃ rest, (p.offer = rest ∨ p.offer = .oneStep :: rest) ∧ rest.Sublist p.fallback ∧
      (p.catalog.Keyed → rest.Pairwise (·.id < ·.id)) := by
  by_cases hnil : p.candidates = []
  · exact ⟨p.fallback, .inl (offer_of_candidates_eq_nil hnil), .refl _, (·.pairwise_options)⟩
  · refine ⟨p.catalog.options.filter (p.enrolled.contains ·.id), ?_, List.filter_sublist,
      (·.pairwise_options.filter _)⟩
    rw [offer_of_candidates_ne_nil hnil, candidates]
    split
    · exact .inr rfl
    · exact .inl rfl

/-! ### What is found in each case -/

/-- Several candidates come down to whether a choice stands. -/
theorem reselection_of_two_le (h : 2 ≤ p.candidates.length) :
    p.reselection =
      match p.current.filter p.keepsChoice with
      | some id => .keep id
      | none => .choose p.candidates := by
  unfold reselection
  match hc : p.candidates with
  | [] => simp [hc] at h
  | [_] => simp [hc] at h
  | _ :: _ :: _ => rfl

theorem keepsChoice_iff {id : String} :
    p.keepsChoice id = true ↔ p.autoSelected = false ∧ id ∈ p.candidates.map (·.id) := by
  simp [keepsChoice]

theorem reselection_of_choiceStands (hmany : 2 ≤ p.candidates.length) (h : p.ChoiceStands) :
    ∃ id, p.current = some id ∧ id ∈ p.candidates.map (·.id) ∧ p.reselection = .keep id := by
  obtain ⟨hauto, id, hcurrent, hmem⟩ := h
  refine ⟨id, hcurrent, hmem, ?_⟩
  have hkept : p.keepsChoice id = true := keepsChoice_iff.mpr ⟨hauto, hmem⟩
  rw [reselection_of_two_le hmany, hcurrent, Option.filter_some_pos hkept]

theorem reselection_of_mustAsk (h : p.MustAsk) : p.reselection = .choose p.offer := by
  rcases h with ⟨hnil, hne⟩ | ⟨hmany, hstands⟩
  · have hempty : p.fallback.isEmpty = false := by simpa using hne
    simp [reselection, hnil, hempty, offer_of_candidates_eq_nil hnil]
  · have hnone : p.current.filter p.keepsChoice = none := by
      refine Option.filter_eq_none_iff.mpr fun id hid hkept => hstands ?_
      obtain ⟨hauto, hmem⟩ := keepsChoice_iff.mp hkept
      exact ⟨hauto, id, hid, hmem⟩
    have hne : p.candidates ≠ [] := List.ne_nil_of_length_pos (by omega)
    rw [reselection_of_two_le hmany, hnone, offer_of_candidates_ne_nil hne]

/-- Where there is nothing to choose, the only candidate is taken, or the one-step method. -/
theorem reselection_of_noChoice (h : p.NoChoice) :
    ∃ id, p.reselection = .automatic id ∧ (p.candidates ≠ [] → id ∈ p.candidates.map (·.id)) ∧
      (p.candidates = [] → id = Method.oneStepId) := by
  rcases h with hone | ⟨hnil, hempty⟩
  · obtain ⟨o, ho⟩ := List.length_eq_one_iff.mp hone
    exact ⟨o.id, by simp [reselection, ho], by simp [ho], by simp [ho]⟩
  · exact ⟨Method.oneStepId, by simp [reselection, hnil, hempty], fun hne => absurd hnil hne,
      fun _ => rfl⟩

@[simp]
theorem selection_true (p : Passport) : p.selection true = p.reselection := by
  unfold selection
  split
  case h_1 hfalse => cases hfalse
  case h_2 => rfl

/-! ### What the passport does in each case -/

/-- The call by which the user is asked for a method. -/
def methodPrompt (p : Passport) : Call := .selectMethod (MethodOption.render p.offer)

/-- What the user answers when asked for a method. -/
def methodAnswer (app : Application) (s : Session) : String :=
  app.answer (s.passport.methodPrompt :: s.calls)

variable (app : Application) {s : Session}

theorem exec_currentMethod_of_mustAsk (h : s.passport.MustAsk) :
    exec (currentMethod app true) s =
      if methodAnswer app s ∈ s.passport.offer.map (·.id) then
        (.ok (methodAnswer app s),
          { passport := s.passport.setCurrent (methodAnswer app s)
            calls := s.passport.methodPrompt :: s.calls })
      else (.error .invalidSelection, { s with calls := s.passport.methodPrompt :: s.calls }) := by
  rw [exec_currentMethod, selection_true, reselection_of_mustAsk h, exec_select_choose]
  rfl

theorem exec_currentMethod_of_noChoice (h : s.passport.NoChoice) :
    ∃ id, exec (currentMethod app true) s =
        (.ok id, { s with passport := s.passport.autoSelect id }) ∧
      (s.passport.candidates ≠ [] → id ∈ s.passport.candidates.map (·.id)) ∧
      (s.passport.candidates = [] → id = Method.oneStepId) := by
  obtain ⟨id, hre, hsome, hnil⟩ := reselection_of_noChoice h
  refine ⟨id, ?_, hsome, hnil⟩
  rw [exec_currentMethod, selection_true, hre, exec_select_automatic]

theorem exec_currentMethod_of_choiceStands (hmany : 2 ≤ s.passport.candidates.length)
    (h : s.passport.ChoiceStands) :
    ∃ id, exec (currentMethod app true) s = (.ok id, s) ∧ s.passport.current = some id ∧
      id ∈ s.passport.candidates.map (·.id) := by
  obtain ⟨id, hcurrent, hmem, hre⟩ := reselection_of_choiceStands hmany h
  refine ⟨id, ?_, hcurrent, hmem⟩
  rw [exec_currentMethod, selection_true, hre]
  rfl

/-! ### What holds in all cases -/

/-- The user is asked at most once. -/
theorem calls_exec_currentMethod (s : Session) :
    (s.passport.MustAsk →
      (exec (currentMethod app true) s).2.calls = s.passport.methodPrompt :: s.calls) ∧
    (¬s.passport.MustAsk → (exec (currentMethod app true) s).2.calls = s.calls) := by
  refine ⟨fun hask => ?_, fun hask => ?_⟩
  · rw [exec_currentMethod_of_mustAsk app hask]
    split <;> rfl
  · rcases mustAsk_or_noChoice_or_choiceStands s.passport with hask' | hno | ⟨hmany, hstands⟩
    · exact absurd hask' hask
    · obtain ⟨id, hexec, -⟩ := exec_currentMethod_of_noChoice app hno
      rw [hexec]
    · obtain ⟨id, hexec, -⟩ := exec_currentMethod_of_choiceStands app hmany hstands
      rw [hexec]

/-- The passport refuses if the user is asked and gives no identifier on offer, and only then. -/
theorem exec_currentMethod_eq_error_iff (s : Session) (e : Error) :
    (exec (currentMethod app true) s).1 = .error e ↔
      e = .invalidSelection ∧ s.passport.MustAsk ∧
        methodAnswer app s ∉ s.passport.offer.map (·.id) := by
  rcases mustAsk_or_noChoice_or_choiceStands s.passport with hask | hno | ⟨hmany, hstands⟩
  · rw [exec_currentMethod_of_mustAsk app hask]
    split
    case isTrue hmem => simp [hmem]
    case isFalse hmem => simp [hmem, hask, eq_comm]
  · obtain ⟨id, hexec, -⟩ := exec_currentMethod_of_noChoice app hno
    simp [hexec, hno.not_mustAsk]
  · obtain ⟨id, hexec, -⟩ := exec_currentMethod_of_choiceStands app hmany hstands
    simp [hexec, not_mustAsk_of_choiceStands hmany hstands]

/-- A method that the user may use comes into use as long as there is one, and else one of the
catalog. -/
theorem mem_of_exec_currentMethod_ok {s s' : Session} {id : String}
    (h : exec (currentMethod app true) s = (.ok id, s')) :
    (s.passport.candidates ≠ [] → id ∈ s.passport.candidates.map (·.id)) ∧
    (s.passport.candidates = [] → s.passport.fallback ≠ [] → id ∈ s.passport.fallback.map (·.id)) ∧
    (s.passport.candidates = [] → s.passport.fallback = [] → id = Method.oneStepId) := by
  rcases mustAsk_or_noChoice_or_choiceStands s.passport with hask | hno | ⟨hmany, hstands⟩
  · have hmem : id ∈ s.passport.offer.map (·.id) := by
      rw [exec_currentMethod_of_mustAsk app hask] at h
      split at h
      case isTrue hmem => cases h; exact hmem
      case isFalse => cases (Prod.mk.inj h).1
    refine ⟨fun hne => ?_, fun hnil _ => ?_, fun hnil hempty => ?_⟩
    · rwa [offer_of_candidates_ne_nil hne] at hmem
    · rwa [offer_of_candidates_eq_nil hnil] at hmem
    · exact absurd hask (NoChoice.not_mustAsk (.inr ⟨hnil, hempty⟩))
  · obtain ⟨id', hexec, hsome, hnone⟩ := exec_currentMethod_of_noChoice app hno
    rw [hexec] at h
    cases h
    refine ⟨hsome, fun hnil hne => ?_, fun hnil _ => hnone hnil⟩
    exact absurd (.inl ⟨hnil, hne⟩) hno.not_mustAsk
  · obtain ⟨id', hexec, -, hmem⟩ := exec_currentMethod_of_choiceStands app hmany hstands
    rw [hexec] at h
    cases h
    have hne : s.passport.candidates ≠ [] := List.ne_nil_of_length_pos (by omega)
    exact ⟨fun _ => hmem, fun hnil => absurd hnil hne, fun hnil => absurd hnil hne⟩

/-- The method that is found is in use, taken without asking exactly if there was nothing to
choose. -/
theorem passport_of_exec_currentMethod_ok {s s' : Session} {id : String}
    (h : exec (currentMethod app true) s = (.ok id, s')) :
    s'.passport.current = some id ∧ (s'.passport.autoSelected = true ↔ s.passport.NoChoice) := by
  rcases mustAsk_or_noChoice_or_choiceStands s.passport with hask | hno | ⟨hmany, hstands⟩
  · have hno : ¬s.passport.NoChoice := fun hno => hno.not_mustAsk hask
    rw [exec_currentMethod_of_mustAsk app hask] at h
    split at h
    case isTrue =>
      cases h
      exact ⟨rfl, by simp [setCurrent, hno]⟩
    case isFalse => cases (Prod.mk.inj h).1
  · obtain ⟨id', hexec, -⟩ := exec_currentMethod_of_noChoice app hno
    rw [hexec] at h
    cases h
    exact ⟨rfl, by simp [autoSelect, hno]⟩
  · obtain ⟨id', hexec, hcurrent, -⟩ := exec_currentMethod_of_choiceStands app hmany hstands
    rw [hexec] at h
    cases h
    have hno : ¬s.passport.NoChoice := by
      rintro (hone | ⟨hnil, -⟩)
      · omega
      · simp [hnil] at hmany
    exact ⟨hcurrent, by simp [hstands.1, hno]⟩

/-- **The choice of the method.** When the method in use is to be checked again, the user is asked
at most once, and exactly if only the catalog is there to choose from, or there are several
candidates and no choice of the user stands. All candidates are offered, or the whole catalog, the
one-step method first and the others in the order of their identifiers. Whatever the answer is, a
candidate comes into use as long as there is one, else a method of the catalog, and the one-step
method if that is empty; it counts as taken without asking exactly if there was nothing to choose.
The passport refuses exactly if the user is asked and gives no identifier on offer. Nothing but the
method in use ever changes, and a method that is not to be checked again stays. -/
theorem method_selection (app : Application) (s : Session) :
    let p := s.passport
    let out := exec (currentMethod app true) s
    -- what the user is asked
    (p.MustAsk → out.2.calls = .selectMethod (MethodOption.render p.offer) :: s.calls) ∧
    (¬p.MustAsk → out.2.calls = s.calls) ∧
    (∃ rest, (p.offer = rest ∨ p.offer = .oneStep :: rest) ∧ rest.Sublist p.fallback ∧
      (p.catalog.Keyed → rest.Pairwise (·.id < ·.id))) ∧
    -- what comes into use
    (∀ id, out.1 = .ok id →
      (p.candidates ≠ [] → id ∈ p.candidates.map (·.id)) ∧
      (p.candidates = [] → p.fallback ≠ [] → ∃ m ∈ p.catalog.values, m.id = id) ∧
      (p.candidates = [] → p.fallback = [] → id = Method.oneStepId) ∧
      out.2.passport.current = some id ∧ (out.2.passport.autoSelected = true ↔ p.NoChoice)) ∧
    -- when the passport refuses
    (∀ e, out.1 = .error e ↔ e = .invalidSelection ∧ p.MustAsk ∧
      app.answer (.selectMethod (MethodOption.render p.offer) :: s.calls) ∉ p.offer.map (·.id)) ∧
    (∀ e, out.1 = .error e → out.2.passport = p) ∧
    -- what stays as it is
    (∃ current autoSelected, out.2.passport = { p with current, autoSelected }) ∧
    ∀ id, p.current = some id → exec (currentMethod app false) s = (.ok id, s) := by
  obtain ⟨hasked, hspared⟩ := calls_exec_currentMethod app s
  refine ⟨hasked, hspared, exists_offer_eq _, fun id hid => ?_,
    exec_currentMethod_eq_error_iff app s, fun e he => ?_, ?_,
    fun id hid => exec_currentMethod_of_some hid⟩
  · have hexec : exec (currentMethod app true) s =
        (.ok id, (exec (currentMethod app true) s).2) := Prod.ext hid rfl
    obtain ⟨hcandidate, hcatalog, honeStep⟩ := mem_of_exec_currentMethod_ok app hexec
    refine ⟨hcandidate, fun hnil hne => ?_, honeStep, passport_of_exec_currentMethod_ok app hexec⟩
    simpa [fallback, Catalog.options, MethodOption.ofMethod] using hcatalog hnil hne
  · exact (exec_currentMethod_error (Prod.ext he rfl)).2.1
  · cases hout : exec (currentMethod app true) s with
    | mk result s' =>
      cases result with
      | ok id =>
        obtain ⟨auto, hp⟩ := exec_currentMethod_ok hout
        exact ⟨some id, auto, hp⟩
      | error e => exact ⟨_, _, (exec_currentMethod_error hout).2.1⟩

/-- A passport whose user may use two methods and has chosen neither. -/
def twoMethodsPassport : Passport where
  config := {}
  verifyTanMode := false
  catalog := .ofList [("912", .bare "912" 6), ("942", .bare "942" 6)]
  enrolled := .ofNames ["912", "942"]

/-- The user of two methods is asked, and an answer that names neither of them is refused. -/
theorem method_selection_between_two :
    twoMethodsPassport.MustAsk ∧
      (exec (currentMethod (steadyApplication "999") true) ⟨twoMethodsPassport, []⟩).1 =
        .error .invalidSelection ∧
      (exec (currentMethod (steadyApplication "999") true) ⟨twoMethodsPassport, []⟩).2.calls =
        [.selectMethod "912:|942:"] := by
  have hask : twoMethodsPassport.MustAsk := by
    refine .inr ⟨by decide, ?_⟩
    rintro ⟨-, id, hcurrent, -⟩
    cases hcurrent
  obtain ⟨hasked, -, -, -, hrefuses, -⟩ :=
    method_selection (steadyApplication "999") ⟨twoMethodsPassport, []⟩
  exact ⟨hask, (hrefuses .invalidSelection).mpr ⟨rfl, hask, by decide⟩, hasked hask⟩

end TanDialog.Passport
