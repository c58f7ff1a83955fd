import TanDialog.Proofs.RefusedPin
import TanDialog.Proofs.Routine
import TanDialog.Proofs.Settings

/-!
# What a reaction comes to

Four reactions follow a reply, one after the other: the PIN is forgotten if it was refused, the
allowed methods are taken over, the user is told about new identifiers, and a challenge is received.
The second one may ask the user for a method, and so it is the only one that can fail; by then the
first one is done, and so is the half of the second one that concerns the allowed methods, while
nothing else has begun (`reaction_to_reply`).

The flag that repeats the opening has two causes, which do not exclude each other: the second
reaction changes the method in use, or the fourth one leads on to the second step.
-/

namespace TanDialog

/-! ### Warnings -/

namespace ReplyStatus

/-- Some return value is a warning with a number. -/
def Warns (s : ReplyStatus) (number : Nat) : Prop :=
  ∃ value ∈ s.all, value.isWarning ∧ value.number? = some number

/-- Some warning names a method as one that the user may use. -/
def Allows (s : ReplyStatus) (id : String) : Prop :=
  ∃ value ∈ s.all, value.isWarning ∧ value.number? = some 3920 ∧ id ∈ value.params

variable {s : ReplyStatus} {k : KnownCode} {value : ReturnValue}

theorem mem_warningsWith :
    value ∈ s.warningsWith k ↔
      value ∈ s.all ∧ value.isWarning ∧ value.number? = some k.number := by
  simp only [warningsWith, warnings, ReturnValue.carries, List.mem_filter, beq_iff_eq, and_assoc]

theorem warningsWith_eq_nil_iff : s.warningsWith k = [] ↔ ¬ s.Warns k.number := by
  rw [List.eq_nil_iff_forall_not_mem]
  constructor
  · rintro h ⟨value, hvalue, hwarning, hnumber⟩
    exact h value (mem_warningsWith.mpr ⟨hvalue, hwarning, hnumber⟩)
  · intro h value hvalue
    exact h ⟨value, mem_warningsWith.mp hvalue⟩

end ReplyStatus

/-! ### Sets of methods -/

namespace NameSet

theorem contains_insertAll (s : NameSet) (names : List String) (name : String) :
    (s.insertAll (names.map fun n => (n, ()))).contains name ↔
      s.contains name ∨ name ∈ names := by
  induction names generalizing s with
  | nil => simp
  | cons n names ih =>
    have hinsert : (s.insert n ()).contains name ↔ s.contains name ∨ name = n := by
      simp only [Dictionary.contains, Dictionary.get?_insert]
      split
      case isTrue h => simp [h]
      case isFalse h => simp [h]
    rw [List.map_cons, Dictionary.insertAll_cons, ih, hinsert, List.mem_cons, or_assoc]

theorem contains_ofNames {names : List String} {name : String} :
    (ofNames names).contains name ↔ name ∈ names := by
  have hempty : ¬ (∅ : NameSet).contains name := by simp [Dictionary.contains]
  rw [ofNames, Dictionary.ofList, contains_insertAll, or_iff_right hempty]

theorem isEmpty_of_forall_not_contains {s : NameSet} (h : ∀ name, ¬ s.contains name) :
    s.isEmpty := by
  have hs : s = ∅ := Dictionary.ext_get? fun name => by
    simpa [Dictionary.contains] using h name
  rw [hs]
  rfl

theorem isEmpty_eq_false {s : NameSet} {name : String} (h : s.contains name) :
    s.isEmpty = false := by
  obtain ⟨_, hvalue⟩ := Option.isSome_iff_exists.mp h
  simp [Dictionary.isEmpty, List.ne_nil_of_mem (Dictionary.get?_eq_some_iff.mp hvalue)]

end NameSet

/-- The methods that the bank allows replace those known so far, unless it names none. -/
structure TakesOver (status : ReplyStatus) (old new : NameSet) : Prop where
  named : (∃ id, status.Allows id) → ∀ id, new.contains id ↔ status.Allows id
  unnamed : (¬ ∃ id, status.Allows id) → new = old

/-- The PIN is forgotten and the user is told, once, if the bank refuses it in a dialog with
credentials; otherwise neither happens. -/
structure HeedsRefusal (c : Context) (status : ReplyStatus) (s s' : Session) : Prop where
  refused : c.anonymous = false → status.RefusesPin →
    s'.passport.pin = none ∧ s'.calls.count .wrongPin = s.calls.count .wrongPin + 1
  otherwise : ¬ (c.anonymous = false ∧ status.RefusesPin) →
    s'.passport.pin = s.passport.pin ∧ s'.calls.count .wrongPin = s.calls.count .wrongPin

theorem count_wrongPin_of_filter_eq {calls calls' : List Call}
    (h : calls'.filter Call.aboutSecrets = calls.filter Call.aboutSecrets) :
    calls'.count .wrongPin = calls.count .wrongPin := by
  have hcount (calls : List Call) :
      (calls.filter Call.aboutSecrets).count .wrongPin = calls.count .wrongPin :=
    List.count_filter rfl
  rw [← hcount, h, hcount]

/-- How a refusal has been heeded can be seen as long as the PIN and the calls about it stay. -/
theorem HeedsRefusal.keep {c : Context} {status : ReplyStatus} {s t s' : Session}
    (h : HeedsRefusal c status s t) (hpin : s'.passport.pin = t.passport.pin)
    (hcount : s'.calls.count .wrongPin = t.calls.count .wrongPin) :
    HeedsRefusal c status s s' where
  refused := by
    rw [hpin, hcount]
    exact h.refused
  otherwise := by
    rw [hpin, hcount]
    exact h.otherwise

namespace Passport

variable {app : Application} {c c' : Context} {s s' : Session} {status : ReplyStatus}

/-! ### The parts of a reaction, in full -/

theorem heedsRefusal_forgetRefusedPin (hstatus : c.status = some status) (s : Session) :
    HeedsRefusal c status s (perform (forgetRefusedPin c) s).2 where
  refused := fun hanon hrefuses => by
    rw [perform_forgetRefusedPin_of_refusesPin hanon hstatus hrefuses]
    exact ⟨rfl, List.count_cons_self⟩
  otherwise := fun hneither => by
    have hcond : (!c.anonymous && (c.status.bind ReplyStatus.authFailure?).isSome) = false := by
      rw [hstatus, Option.bind_some, Bool.eq_false_iff]
      intro h
      rw [Bool.and_eq_true, Bool.not_eq_true'] at h
      exact hneither ⟨h.1, ReplyStatus.isSome_authFailure?.mp h.2⟩
    rw [forgetRefusedPin, hcond]
    exact ⟨rfl, rfl⟩

theorem warningsWith_eq_nil_iff {k : KnownCode} (hstatus : c.status = some status) :
    warningsWith c k = [] ↔ ¬ status.Warns k.number := by
  rw [warningsWith, hstatus, Option.map_some, Option.getD_some,
    ReplyStatus.warningsWith_eq_nil_iff]

/-- The passport after the allowed methods in a reply have been taken over. -/
def enrolledFrom (c : Context) (p : Passport) : Passport :=
  p.enroll (allowedMethods (warningsWith c .methodsAllowed))

@[simp]
theorem anonymous_enrolledFrom (c : Context) (p : Passport) :
    (enrolledFrom c p).anonymous = p.anonymous := by
  rw [enrolledFrom, enroll_eq]

@[simp]
theorem current_enrolledFrom (c : Context) (p : Passport) :
    (enrolledFrom c p).current = p.current := by
  rw [enrolledFrom, enroll_eq]

theorem enrolledFrom_withPin (c : Context) (p : Passport) (pin : Option String) :
    enrolledFrom c { p with pin } = { enrolledFrom c p with pin } := by
  unfold enrolledFrom enroll
  split <;> rfl

theorem takesOver_enrolledFrom (hstatus : c.status = some status) (p : Passport) :
    TakesOver status p.enrolled (enrolledFrom c p).enrolled := by
  have hallows (id : String) :
      (allowedMethods (warningsWith c .methodsAllowed)).contains id ↔ status.Allows id := by
    rw [allowedMethods, NameSet.contains_ofNames, warningsWith, hstatus, Option.map_some,
      Option.getD_some, List.mem_flatMap]
    simp only [ReplyStatus.mem_warningsWith, ReplyStatus.Allows, and_assoc, KnownCode.number]
  rw [enrolledFrom, enroll]
  refine ⟨fun hsome => ?_, fun hnone => ?_⟩
  · obtain ⟨id, hid⟩ := hsome
    rw [NameSet.isEmpty_eq_false ((hallows id).mpr hid)]
    exact hallows
  · rw [NameSet.isEmpty_of_forall_not_contains fun id hid => hnone ⟨id, (hallows id).mp hid⟩]
    rfl

/-- The allowed methods are taken over, and the method in use is checked against them where that
matters: in a dialog with credentials that is no synchronisation. -/
theorem exec_checkAllowedMethods (app : Application) (c : Context) (s : Session) :
    exec (checkAllowedMethods app c) s =
      let t := { s with passport := enrolledFrom c s.passport }
      if warningsWith c .methodsAllowed ≠ [] ∧ c.anonymous = false ∧
          s.passport.anonymous = false ∧ c.template? ≠ some .synchronise then
        match exec (currentMethod app true) t with
        | (.ok id, t) =>
          (.ok (if s.passport.current = some id then c else { c with again := true }), t)
        | (.error e, t) => (.error e, t)
      else (.ok c, t) := by
  have hfold : s.passport.enroll (allowedMethods (warningsWith c .methodsAllowed)) =
      enrolledFrom c s.passport := rfl
  unfold checkAllowedMethods
  dsimp only
  by_cases hnone : warningsWith c .methodsAllowed = []
  · have henrolled : enrolledFrom c s.passport = s.passport := by
      rw [enrolledFrom, hnone]
      rfl
    rw [if_pos (by simp [hnone]), if_neg (fun h => h.1 hnone), henrolled]
    rfl
  rw [if_neg (by simpa using hnone)]
  simp only [exec_bind, exec_lift, Session.perform_modifyPassport, Session.perform_getPassport,
    hfold, anonymous_enrolledFrom, current_enrolledFrom]
  by_cases hchecks : c.anonymous = false ∧ s.passport.anonymous = false ∧
      c.template? ≠ some .synchronise
  · obtain ⟨hanon, hpass, htemplate⟩ := hchecks
    rw [if_neg (by simp [hanon, hpass, htemplate]), if_pos ⟨hnone, hanon, hpass, htemplate⟩,
      exec_bind]
    rcases exec (currentMethod app true) { s with passport := enrolledFrom c s.passport } with
      ⟨_ | id, t⟩ <;> rfl
  · have hspared : (c.anonymous || s.passport.anonymous || c.template? == some .synchronise) =
        true := by
      rw [← Bool.not_eq_false]
      intro h
      simp only [Bool.or_eq_false_iff, beq_eq_false_iff_ne] at h
      exact hchecks ⟨h.1.1, h.1.2, h.2⟩
    rw [if_pos hspared, if_neg fun h => hchecks h.2]
    rfl

/-- The flag is raised by a change of the method in use, and the context is changed by nothing
else. -/
theorem exec_checkAllowedMethods_ok_iff_changed (hagain : c.again = false)
    (h : exec (checkAllowedMethods app c) s = (.ok c', s')) :
    c' = { c with again := c'.again } ∧
      (c'.again ↔ warningsWith c .methodsAllowed ≠ [] ∧ c.anonymous = false ∧
        s.passport.anonymous = false ∧ c.template? ≠ some .synchronise ∧
        s'.passport.current ≠ s.passport.current) := by
  rw [exec_checkAllowedMethods] at h
  dsimp only at h
  split at h
  case isTrue hchecks =>
    rcases hid : exec (currentMethod app true) { s with passport := enrolledFrom c s.passport } with
      ⟨e | id, t⟩
    · rw [hid] at h
      cases (Prod.mk.inj h).1
    · rw [hid] at h
      obtain ⟨hc', rfl⟩ := Prod.mk.inj h
      obtain ⟨auto, ht⟩ := exec_currentMethod_ok hid
      have hnew : t.passport.current = some id := by rw [ht]
      obtain ⟨hwarns, hanon, hpass, htemplate⟩ := hchecks
      rw [hnew]
      refine ⟨?_, ?_⟩
      · rw [← Except.ok.inj hc']
        split <;> rfl
      · rw [← Except.ok.inj hc']
        split
        case isTrue hsame => simp [hagain, hsame]
        case isFalse hne => simp [hwarns, hanon, hpass, htemplate, Ne.symm hne]
  case isFalse hchecks =>
    obtain ⟨hc', rfl⟩ := Prod.mk.inj h
    obtain rfl := Except.ok.inj hc'
    exact ⟨rfl, by simp [hagain]⟩

/-- Where the user chooses none of the methods on offer, the allowed methods have been taken over,
and nothing else has happened to the passport. -/
theorem exec_checkAllowedMethods_error {e : Error}
    (h : exec (checkAllowedMethods app c) s = (.error e, s')) :
    e = .invalidSelection ∧ s'.passport = enrolledFrom c s.passport := by
  rw [exec_checkAllowedMethods] at h
  dsimp only at h
  split at h
  case isTrue =>
    rcases hid : exec (currentMethod app true) { s with passport := enrolledFrom c s.passport } with
      ⟨e' | id, t⟩
    · rw [hid] at h
      obtain ⟨he, rfl⟩ := Prod.mk.inj h
      obtain ⟨hinvalid, hpassport, -⟩ := exec_currentMethod_error hid
      exact ⟨(Except.error.inj he).symm.trans hinvalid, hpassport⟩
    · rw [hid] at h
      cases (Prod.mk.inj h).1
  case isFalse => cases (Prod.mk.inj h).1

/-- Besides what has been taken over, the check concerns the method in use only, whether or not it
fails. -/
theorem passport_exec_checkAllowedMethods (app : Application) (c : Context) (s : Session) :
    ∃ current auto, (exec (checkAllowedMethods app c) s).2.passport =
      { enrolledFrom c s.passport with current, autoSelected := auto } := by
  rcases h : exec (checkAllowedMethods app c) s with ⟨e | c', s'⟩
  · exact ⟨_, _, (exec_checkAllowedMethods_error h).2⟩
  · rw [exec_checkAllowedMethods] at h
    dsimp only at h
    split at h
    case isTrue =>
      rcases hid : exec (currentMethod app true)
        { s with passport := enrolledFrom c s.passport } with ⟨e | id, t⟩
      · rw [hid] at h
        cases (Prod.mk.inj h).1
      · rw [hid] at h
        obtain ⟨-, rfl⟩ := Prod.mk.inj h
        obtain ⟨auto, ht⟩ := exec_currentMethod_ok hid
        exact ⟨_, auto, ht⟩
    case isFalse =>
      obtain ⟨-, rfl⟩ := Prod.mk.inj h
      exact ⟨_, _, rfl⟩

/-- The flag is raised by a challenge that leads on to the second step, and by nothing else. -/
theorem again_perform_receiveChallenge (c : Context) (s : Session) :
    (perform (receiveChallenge c) s).1.again ↔
      c.again ∨ c.step = some .first ∧ (perform (receiveChallenge c) s).1.step = some .second := by
  rcases perform_receiveChallenge_cases c s with
    ⟨status, response, -, hresponse, -, -, hreceive⟩ | ⟨step, hreceive, hstep, -⟩
  · rw [hreceive]
    exact iff_of_true rfl (.inr ⟨(awaitedResponse?_eq_some.mp hresponse).2.1, rfl⟩)
  · rw [hreceive]
    refine (or_iff_left ?_).symm
    rintro ⟨hfirst, hsecond⟩
    -- the step does not move from the first to the second
    rcases hstep with rfl | ⟨rfl, -⟩
    · rw [hfirst] at hsecond
      cases hsecond
    · cases hsecond

/-! ### The whole reaction -/

/-- A reaction that succeeds goes through all its parts. -/
theorem exec_react_ok (h : exec (react app c) s = (.ok c', s')) :
    ∃ c₁ t₁, exec (checkAllowedMethods app c) (perform (forgetRefusedPin c) s).2 = (.ok c₁, t₁) ∧
      perform (receiveChallenge c₁) (perform (reportChangedIds c₁) t₁).2 = (c', s') := by
  obtain ⟨_, t, hforget, h⟩ := exec_bind_ok.mp h
  obtain ⟨-, rfl⟩ := Prod.mk.inj hforget
  obtain ⟨c₁, t₁, hallowed, h⟩ := exec_bind_ok.mp h
  obtain ⟨_, t₂, hids, h⟩ := exec_bind_ok.mp h
  obtain ⟨-, rfl⟩ := Prod.mk.inj hids
  obtain ⟨hc', rfl⟩ := Prod.mk.inj h
  exact ⟨c₁, t₁, hallowed, Prod.ext (Except.ok.inj hc') rfl⟩

/-- A reaction that fails has failed at the check of the method in use. -/
theorem exec_react_error {e : Error} (h : exec (react app c) s = (.error e, s')) :
    exec (checkAllowedMethods app c) (perform (forgetRefusedPin c) s).2 = (.error e, s') := by
  rcases exec_bind_error.mp h with h | ⟨_, t, hforget, h⟩
  · cases (Prod.mk.inj h).1
  · obtain ⟨-, rfl⟩ := Prod.mk.inj hforget
    rcases exec_bind_error.mp h with h | ⟨c₁, t₁, -, h⟩
    · exact h
    · cases (Prod.mk.inj h).1

theorem perform_unlessFailing_ok {action : Action Context} :
    perform (unlessFailing c action) s = ((.ok (), c'), s') ↔ exec action s = (.ok c', s') := by
  rw [unlessFailing, perform_bind, perform_run]
  rcases exec action s with ⟨e | c₁, s₁⟩
  · simp
  · simp

theorem perform_unlessFailing_error {action : Action Context} {e : Error} :
    perform (unlessFailing c action) s = ((.error e, c'), s') ↔
      exec action s = (.error e, s') ∧ c' = c := by
  rw [unlessFailing, perform_bind, perform_run]
  rcases exec action s with ⟨e₁ | c₁, s₁⟩
  · simp [and_right_comm, eq_comm]
  · simp

/-- Whatever follows the check of the method in use concerns the challenge only. -/
theorem exec_react_after_check (app : Application) (c : Context) (s : Session) :
    let checked := (exec (checkAllowedMethods app c) (perform (forgetRefusedPin c) s).2).2
    ∃ challenge, (exec (react app c) s).2.passport = { checked.passport with challenge } ∧
      (exec (react app c) s).2.calls.filter Call.aboutSecrets =
        checked.calls.filter Call.aboutSecrets := by
  rcases h : exec (react app c) s with ⟨e | c', s'⟩
  · rw [exec_react_error h]
    exact ⟨_, rfl, rfl⟩
  · obtain ⟨c₁, t₁, hallowed, hreceived⟩ := exec_react_ok h
    rw [hallowed]
    have hspares : t₁.Spares (perform (reportChangedIds c₁) t₁).2 :=
      routine_spares.reportChangedIds c₁ t₁
    obtain ⟨calls, hids⟩ := perform_reportChangedIds c₁ t₁
    rw [hids] at hreceived hspares
    obtain ⟨_, _, _, challenge, hreceive⟩ :=
      perform_receiveChallenge c₁ { t₁ with calls := calls }
    obtain ⟨-, rfl⟩ := Prod.mk.inj (hreceived.symm.trans hreceive)
    exact ⟨challenge, rfl, hspares.calls⟩

/-- What a reaction leaves of the passport, whether or not it fails. -/
theorem passport_exec_react (app : Application) (c : Context) (s : Session) :
    ∃ pin current auto challenge, (exec (react app c) s).2.passport =
      { enrolledFrom c s.passport with pin, current, autoSelected := auto, challenge } := by
  obtain ⟨challenge, hpassport, -⟩ := exec_react_after_check app c s
  obtain ⟨pin, calls, hforget⟩ := perform_forgetRefusedPin c s
  obtain ⟨current, auto, hchecked⟩ :=
    passport_exec_checkAllowedMethods app c { passport := { s.passport with pin }, calls }
  rw [hforget, hchecked, enrolledFrom_withPin] at hpassport
  exact ⟨pin, current, auto, challenge, hpassport⟩

/-- A refusal of the PIN is heeded, whether or not the reaction fails. -/
theorem heedsRefusal_react (app : Application) (hstatus : c.status = some status) (s : Session) :
    HeedsRefusal c status s (exec (react app c) s).2 := by
  obtain ⟨challenge, hpassport, hcalls⟩ := exec_react_after_check app c s
  have hspares := routine_spares.checkAllowedMethods app c (perform (forgetRefusedPin c) s).2
  rw [perform_run] at hspares
  refine (heedsRefusal_forgetRefusedPin hstatus s).keep ?_
    (count_wrongPin_of_filter_eq (hcalls.trans hspares.calls))
  rw [hpassport]
  exact hspares.pin

/-- A reaction that fails leaves the passport as the check of the method in use has found it. -/
theorem passport_of_exec_react_error {e : Error} (h : exec (react app c) s = (.error e, s')) :
    e = .invalidSelection ∧ ∃ pin, s'.passport = { enrolledFrom c s.passport with pin } := by
  obtain ⟨pin, calls, hforget⟩ := perform_forgetRefusedPin c s
  have hchecked := exec_react_error h
  rw [hforget] at hchecked
  obtain ⟨he, hs'⟩ := exec_checkAllowedMethods_error hchecked
  rw [enrolledFrom_withPin] at hs'
  exact ⟨he, pin, hs'⟩

/-- A reaction that succeeds has stored a challenge and led on to the second step, or it has left
the challenge as it was, and the opening in its step or without one. -/
theorem exec_react_ok_cases (h : exec (react app c) s = (.ok c', s')) :
    (∃ status response, c.status = some status ∧ awaitedResponse? c status = some response ∧
      c.anonymous = false ∧ s.passport.anonymous = false ∧ c' = advance c ∧
      s'.passport.challenge = s.passport.challenge.storeResponse response) ∨
    ∃ step again, c' = { c with step, again } ∧ s'.passport.challenge = s.passport.challenge ∧
      (step = c.step ∨
        step = none ∧ (c.anonymous = true ∨ s.passport.anonymous = true ∨ c.status.isSome)) ∧
      (c.authenticates → c.status.isSome → step ≠ some .second) := by
  obtain ⟨c₁, t₁, hallowed, hreceived⟩ := exec_react_ok h
  obtain ⟨pin, calls, hforget⟩ := perform_forgetRefusedPin c s
  rw [hforget] at hallowed
  -- up to the challenge only the flag of the context and the methods of the passport change
  obtain ⟨⟨enrolled, current, auto, ht₁⟩, hflag⟩ := exec_checkAllowedMethods_ok hallowed
  obtain ⟨again, rfl⟩ : ∃ again, c₁ = { c with again } := by
    rcases hflag with ⟨rfl, -⟩ | ⟨_, rfl, -⟩
    · exact ⟨_, rfl⟩
    · exact ⟨_, rfl⟩
  obtain ⟨calls', hids⟩ := perform_reportChangedIds { c with again } t₁
  rw [hids] at hreceived
  rcases perform_receiveChallenge_cases { c with again } { t₁ with calls := calls' } with
    ⟨status, response, hstatus, hresponse, hanon, hpass, hreceive⟩ |
    ⟨step, hreceive, hstep, hsecond⟩
  · obtain ⟨rfl, rfl⟩ := Prod.mk.inj (hreceived.symm.trans hreceive)
    rw [ht₁] at hpass
    exact .inl ⟨status, response, hstatus, hresponse, hanon, hpass, rfl, by rw [ht₁]⟩
  · obtain ⟨rfl, rfl⟩ := Prod.mk.inj (hreceived.symm.trans hreceive)
    rw [ht₁] at hstep
    exact .inr ⟨step, again, rfl, by rw [ht₁], hstep, hsecond⟩

/-- After a reaction that succeeds, the flag is up if the method in use has changed or the opening
has moved on to its second step. -/
theorem again_of_exec_react_ok (hstatus : c.status = some status) (hagain : c.again = false)
    (h : exec (react app c) s = (.ok c', s')) :
    c'.again ↔
      (status.Warns 3920 ∧ c.anonymous = false ∧ s.passport.anonymous = false ∧
        c.template? ≠ some .synchronise ∧ s'.passport.current ≠ s.passport.current) ∨
      (c.step = some .first ∧ c'.step = some .second) := by
  obtain ⟨c₁, t₁, hallowed, hreceived⟩ := exec_react_ok h
  obtain ⟨pin, calls, hforget⟩ := perform_forgetRefusedPin c s
  rw [hforget] at hallowed
  obtain ⟨hc₁, hraised⟩ := exec_checkAllowedMethods_ok_iff_changed hagain hallowed
  have hwarns : warningsWith c .methodsAllowed ≠ [] ↔ status.Warns 3920 :=
    (not_congr (warningsWith_eq_nil_iff hstatus)).trans Classical.not_not
  -- what follows the check does not concern the method in use
  have hcurrent : s'.passport.current = t₁.passport.current := by
    obtain ⟨challenge, hpassport, -⟩ := exec_react_after_check app c s
    rw [h, hforget, hallowed] at hpassport
    rw [hpassport]
  have hstep : c₁.step = c.step := by rw [hc₁]
  have hflag := again_perform_receiveChallenge c₁ (perform (reportChangedIds c₁) t₁).2
  rw [hreceived, hstep, hraised, hwarns, ← hcurrent] at hflag
  exact hflag

/-- **The reaction to a reply.** Let the passport react to a reply with the flag down. Whether or
not it refuses, a refused PIN is forgotten, the allowed methods are taken over, and the
configuration, the parameters of bank and user, the catalog and the verification of a method stay as
they are. If the passport does not refuse, the flag is up afterwards exactly if the check of the
method in use has changed it or the opening has moved on to its second step. If it refuses, the user
has chosen none of the methods on offer, and nothing else has changed. -/
theorem reaction_to_reply {result : Except Error Unit} (hstatus : c.status = some status)
    (hagain : c.again = false)
    (h : perform (handle app .messageSent c) s = ((result, c'), s')) :
    HeedsRefusal c status s s' ∧
    TakesOver status s.passport.enrolled s'.passport.enrolled ∧
    s'.passport.settings = s.passport.settings ∧
    s'.passport.verifyTanMode = s.passport.verifyTanMode ∧
    match result with
    | .ok () =>
      c'.again ↔
        (status.Warns 3920 ∧ c.anonymous = false ∧ s.passport.anonymous = false ∧
          c.template? ≠ some .synchronise ∧ s'.passport.current ≠ s.passport.current) ∨
        (c.step = some .first ∧ c'.step = some .second)
    | .error e =>
      e = .invalidSelection ∧ s'.passport.current = s.passport.current ∧
        s'.passport.autoSelected = s.passport.autoSelected ∧
        s'.passport.challenge = s.passport.challenge ∧ c' = c := by
  have hhandle : handle app .messageSent c = unlessFailing c (react app c) := rfl
  rw [hhandle] at h
  have hsession : (exec (react app c) s).2 = s' := by
    cases result with
    | ok => rw [perform_unlessFailing_ok.mp h]
    | error e => rw [(perform_unlessFailing_error.mp h).1]
  obtain ⟨pin, current, auto, challenge, hpassport⟩ := passport_exec_react app c s
  have hheeds := heedsRefusal_react app hstatus s
  rw [hsession] at hpassport hheeds
  have hkept : (enrolledFrom c s.passport).settings = s.passport.settings ∧
      (enrolledFrom c s.passport).verifyTanMode = s.passport.verifyTanMode := by
    rw [enrolledFrom, enroll_eq]
    exact ⟨rfl, rfl⟩
  refine ⟨hheeds, ?_, ?_, ?_, ?_⟩
  · rw [hpassport]
    exact takesOver_enrolledFrom hstatus s.passport
  · rw [hpassport]
    exact hkept.1
  · rw [hpassport]
    exact hkept.2
  · cases result with
    | ok => exact again_of_exec_react_ok hstatus hagain (perform_unlessFailing_ok.mp h)
    | error e =>
      obtain ⟨hreact, hc'⟩ := perform_unlessFailing_error.mp h
      obtain ⟨he, pin, hs'⟩ := passport_of_exec_react_error hreact
      rw [enrolledFrom, enroll_eq] at hs'
      rw [hs']
      exact ⟨he, rfl, rfl, rfl, hc'⟩

/-! ### A sample reaction -/

/-- A reply that refuses the PIN and allows one method. -/
def refusingStatus : ReplyStatus where
  global := [⟨"9942", "PIN falsch", [], none, none⟩]
  segment := [⟨"3920", "Zugelassene Verfahren", ["912"], none, some "4"⟩]
  data := ∅

/-- An opening whose first step is answered by this reply. -/
def refusedContext : Context :=
  { Context.ofTemplate .start with status := some refusingStatus, step := some .first }

/-- A session under a method that is not allowed any more. -/
def outdatedSession : Session where
  passport :=
    { config := {}, verifyTanMode := false, pin := some "12345", current := some "921"
      catalog := .ofList [("912", Method.bare "912" 6), ("921", Method.bare "921" 6)] }

/-- The PIN is forgotten, and the opening is repeated under the method that is allowed. -/
theorem reaction_to_reply_refused :
    ∃ c' s', perform (handle (steadyApplication "") .messageSent refusedContext) outdatedSession =
        ((.ok (), c'), s') ∧
      s'.passport.pin = none ∧ s'.calls.count .wrongPin = 1 ∧
      (∀ id, s'.passport.enrolled.contains id ↔ refusingStatus.Allows id) ∧
      s'.passport.current = some "912" ∧ c'.again := by
  let reacted := perform (handle (steadyApplication "") .messageSent refusedContext) outdatedSession
  have h : reacted = ((.ok (), reacted.1.2), reacted.2) := rfl
  have hcurrent : reacted.2.passport.current = some "912" := rfl
  have hrefuses : refusingStatus.RefusesPin :=
    ⟨_, List.mem_cons_self, rfl, 9942, by decide, rfl⟩
  have hwarns : refusingStatus.Warns 3920 :=
    ⟨_, List.mem_cons_of_mem _ List.mem_cons_self, rfl, rfl⟩
  have hallows : refusingStatus.Allows "912" :=
    ⟨_, List.mem_cons_of_mem _ List.mem_cons_self, rfl, rfl, List.mem_cons_self⟩
  obtain ⟨hheeds, htakes, -, -, hflag⟩ := reaction_to_reply rfl rfl h
  obtain ⟨hpin, hcount⟩ := hheeds.refused rfl hrefuses
  refine ⟨_, _, h, hpin, hcount, htakes.named ⟨_, hallows⟩, hcurrent, hflag.mpr (.inl ?_)⟩
  refine ⟨hwarns, rfl, rfl, by decide, ?_⟩
  rw [hcurrent]
  decide

end Passport

end TanDialog
