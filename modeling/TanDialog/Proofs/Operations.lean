import TanDialog.Passport.Patch
import TanDialog.Proofs.Sequencing

/-!
# What the operations of a passport do

One equation for each operation that dialogs and patching are made of: its answer and the session
after it. Of look-ups it is also said what they leave alone, and when they change nothing at all.
-/

namespace TanDialog.Passport

/-! ### Look-ups -/

@[simp]
theorem perform_lookUpRequirement (code : String) (s : Session) :
    perform (lookUpRequirement code) s =
      (s.passport.requirement code, { s with passport := s.passport.lookedUp code }) := rfl

/-- A look-up touches nothing but the verification. -/
theorem lookedUp_eq (p : Passport) (code : String) :
    p.lookedUp code = { p with verifyTanMode := (p.lookedUp code).verifyTanMode } := by
  rw [lookedUp]
  split <;> rfl

theorem foldl_lookedUp_eq (p : Passport) (codes : List String) :
    ∃ verifyTanMode, codes.foldl lookedUp p = { p with verifyTanMode } := by
  induction codes generalizing p with
  | nil => exact ⟨_, rfl⟩
  | cons code codes ih =>
    obtain ⟨verifyTanMode, h⟩ := ih (p.lookedUp code)
    rw [List.foldl_cons, h, lookedUp_eq]
    exact ⟨_, rfl⟩

@[simp]
theorem offeredTanMedia_lookedUp (p : Passport) (code : String) :
    (p.lookedUp code).offeredTanMedia = p.offeredTanMedia := by
  rw [lookedUp_eq]
  rfl

/-- A segment that is verified counts as needing a TAN. -/
theorem requirement_of_verifies {p : Passport} {code : String}
    (h : p.bpd.any (p.verifies · code)) : p.requirement code = .required := by
  obtain ⟨bpd, hbpd, hverifies⟩ := Option.any_eq_true _ _ |>.mp h
  have hdeclared : BankParameters.declaredRequirement? bpd code = none := by
    simp only [verifies, Bool.and_eq_true, Option.isNone_iff_eq_none] at hverifies
    exact hverifies.1.1.1
  have hknows : BankParameters.knowsTransaction bpd code = false := by
    simp only [verifies, Bool.and_eq_true, Bool.not_eq_true'] at hverifies
    exact hverifies.1.1.2
  rw [requirement, hbpd]
  simp only [hdeclared, hknows, hverifies, if_true]
  rfl

/-- Looking up a segment that needs no TAN changes nothing. -/
theorem lookedUp_of_requirement_ne {p : Passport} {code : String}
    (h : p.requirement code ≠ .required) : p.lookedUp code = p :=
  if_neg fun hverifies => h (requirement_of_verifies hverifies)

/-! ### The TAN medium -/

/-- The call by which the medium of a request is asked for, if it is. -/
def mediumCalls (p : Passport) (version : Nat) (method : Option Method) : List Call :=
  if namesTanMedia version method then [.requestTanMedia p.offeredTanMedia] else []

/-- The medium that a request names when it is made in a session. -/
def medium (app : Application) (s : Session) (version : Nat) (method : Option Method) : String :=
  if namesTanMedia version method then
    let answer := app.answer (.requestTanMedia s.passport.offeredTanMedia :: s.calls)
    if answer.isEmpty then unknownTanMedia else answer
  else ""

theorem perform_tanMedia (app : Application) (version : Nat) (method : Option Method)
    (s : Session) :
    perform (tanMedia app version method) s =
      (medium app s version method,
        { s with calls := mediumCalls s.passport version method ++ s.calls }) := by
  unfold tanMedia medium mediumCalls
  split <;> rfl

/-! ### The method in use -/

/-- A method that stays is the one in use. -/
theorem current_of_selection_keep {p : Passport} {recheck : Bool} {id : String}
    (h : p.selection recheck = .keep id) : p.current = some id := by
  have hre (h : p.reselection = .keep id) : p.current = some id := by
    rw [reselection] at h
    split at h
    · split at h <;> cases h
    · cases h
    · split at h
      case h_1 id' hf =>
        cases h
        exact (Option.filter_eq_some_iff.mp hf).1
      case h_2 => cases h
  unfold selection at h
  split at h
  case h_1 hc => cases h; exact hc
  case h_2 => exact hre h

theorem exec_currentMethod (app : Application) (recheck : Bool) (s : Session) :
    exec (currentMethod app recheck) s = exec (select app (s.passport.selection recheck)) s := rfl

theorem exec_select_automatic (app : Application) (id : String) (s : Session) :
    exec (select app (.automatic id)) s =
      (.ok id, { s with passport := s.passport.autoSelect id }) := rfl

/-- The user is asked once, and the answer counts if it is on offer. -/
theorem exec_select_choose (app : Application) (options : List MethodOption) (s : Session) :
    exec (select app (.choose options)) s =
      let calls := Call.selectMethod (MethodOption.render options) :: s.calls
      if app.answer calls ∈ options.map (·.id) then
        (.ok (app.answer calls), { passport := s.passport.setCurrent (app.answer calls), calls })
      else (.error .invalidSelection, { s with calls }) := by
  simp only [select, chooseMethod, exec_bind, exec_lift, Session.perform_ask]
  generalize app.answer _ = answer
  cases hfind : options.find? (·.id == answer) with
  | some o =>
    have hid : o.id = answer := by simpa using List.find?_some hfind
    have hmem : answer ∈ options.map (·.id) :=
      hid ▸ List.mem_map_of_mem (List.mem_of_find?_eq_some hfind)
    rw [if_pos hmem, ← hid]
    rfl
  | none =>
    have hmem : answer ∉ options.map (·.id) := by
      simpa using List.find?_eq_none.mp hfind
    rw [if_neg hmem]
    rfl

/-- Once a method is found it is in use, and all else is as before. -/
theorem exec_currentMethod_ok {app : Application} {recheck : Bool} {id : String} {s s' : Session}
    (h : exec (currentMethod app recheck) s = (.ok id, s')) :
    ∃ auto, s'.passport = { s.passport with current := some id, autoSelected := auto } := by
  rw [exec_currentMethod] at h
  cases hs : s.passport.selection recheck with
  | keep kept =>
    rw [hs] at h
    obtain ⟨hid, rfl⟩ := Prod.mk.inj h
    cases hid
    refine ⟨s.passport.autoSelected, ?_⟩
    rw [← current_of_selection_keep hs]
  | automatic only =>
    rw [hs, exec_select_automatic] at h
    obtain ⟨hid, rfl⟩ := Prod.mk.inj h
    cases hid
    exact ⟨true, rfl⟩
  | choose options =>
    rw [hs, exec_select_choose] at h
    dsimp only at h
    split at h
    · obtain ⟨hid, rfl⟩ := Prod.mk.inj h
      cases hid
      exact ⟨false, rfl⟩
    · cases (Prod.mk.inj h).1

/-- No method is found if the user chooses none of those on offer, and that leaves the passport
alone. -/
theorem exec_currentMethod_error {app : Application} {recheck : Bool} {e : Error} {s s' : Session}
    (h : exec (currentMethod app recheck) s = (.error e, s')) :
    e = .invalidSelection ∧ s'.passport = s.passport ∧
      ∃ options, s.passport.selection recheck = .choose options := by
  rw [exec_currentMethod] at h
  cases hs : s.passport.selection recheck with
  | keep kept =>
    rw [hs] at h
    cases (Prod.mk.inj h).1
  | automatic only =>
    rw [hs] at h
    cases (Prod.mk.inj h).1
  | choose options =>
    rw [hs, exec_select_choose] at h
    dsimp only at h
    split at h
    · cases (Prod.mk.inj h).1
    · obtain ⟨he, rfl⟩ := Prod.mk.inj h
      exact ⟨(Except.error.inj he).symm, rfl, options, rfl⟩

/-- A method in use that is not to be checked again is found without further ado. -/
theorem exec_currentMethod_of_some {app : Application} {id : String} {s : Session}
    (h : s.passport.current = some id) : exec (currentMethod app false) s = (.ok id, s) := by
  have hs : s.passport.selection false = .keep id := by
    simp [selection, h]
  rw [exec_currentMethod, hs]
  rfl

/-! ### A simple application -/

/-- An application whose user gives one answer to everything. -/
def steadyApplication (answer : String) : Application where
  answer := fun _ => answer
  encodeSegment := fun _ => .ok []
  challengeClass := fun _ _ => .ok none

end TanDialog.Passport
