import TanDialog.Proofs.Reaction.Outcome
import TanDialog.Proofs.Selection

/-!
# Checking the method in use again

A check of the method in use settles it for all later checks, with one exception. A choice among
several candidates stands, and where there is nothing to choose the same method is taken again; in
both cases a second check asks for nothing and changes nothing (`Passport.Settled`). But a choice
from the catalog, which is offered where there is no candidate at all (`Passport.OnlyCatalog`), is
not remembered as one: every check asks anew, and the user may answer otherwise.

So a reply that names the allowed methods, delivered for the second time, can repeat the opening on
account of the methods in this one case only (`Passport.second_check_settled_iff`).
-/

namespace TanDialog.Passport

variable {app app' : Application} {p q : Passport} {s s' t t' : Session} {id : String}

/-! ### What a check depends on -/

/-- Two passports with the same methods to choose from and the same one in use. -/
structure SameMethods (p q : Passport) : Prop where
  bpd : q.bpd = p.bpd
  catalog : q.catalog = p.catalog
  enrolled : q.enrolled = p.enrolled
  current : q.current = p.current
  autoSelected : q.autoSelected = p.autoSelected

/-- There is no candidate, and so the whole catalog is offered. -/
def OnlyCatalog (p : Passport) : Prop := p.candidates = [] ∧ p.fallback ≠ []

instance (p : Passport) : Decidable p.OnlyCatalog :=
  inferInstanceAs (Decidable (p.candidates = [] ∧ p.fallback ≠ []))

namespace SameMethods

theorem candidates_eq (h : p.SameMethods q) : q.candidates = p.candidates := by
  unfold candidates allowsOneStep
  rw [h.bpd, h.catalog, h.enrolled]

theorem fallback_eq (h : p.SameMethods q) : q.fallback = p.fallback := by
  rw [fallback, fallback, h.catalog]

theorem trans {r : Passport} (hpq : p.SameMethods q) (hqr : q.SameMethods r) : p.SameMethods r where
  bpd := hqr.bpd.trans hpq.bpd
  catalog := hqr.catalog.trans hpq.catalog
  enrolled := hqr.enrolled.trans hpq.enrolled
  current := hqr.current.trans hpq.current
  autoSelected := hqr.autoSelected.trans hpq.autoSelected

theorem onlyCatalog_iff (h : p.SameMethods q) : q.OnlyCatalog ↔ p.OnlyCatalog := by
  rw [OnlyCatalog, OnlyCatalog, h.candidates_eq, h.fallback_eq]

theorem reselection_eq (h : p.SameMethods q) : q.reselection = p.reselection := by
  have hkeeps : q.keepsChoice = p.keepsChoice := by
    funext id
    rw [keepsChoice, keepsChoice, h.autoSelected, h.candidates_eq]
  simp only [reselection, h.candidates_eq, h.fallback_eq, h.current, hkeeps]

end SameMethods

/-! ### Settled methods -/

/-- A check finds the method, without asking for it, and has nothing to change. -/
def Settled (p : Passport) (id : String) : Prop :=
  p.reselection = .keep id ∨
    p.reselection = .automatic id ∧ p.current = some id ∧ p.autoSelected = true

theorem Settled.of_sameMethods (h : p.Settled id) (hsame : p.SameMethods q) : q.Settled id := by
  unfold Settled
  rw [hsame.reselection_eq, hsame.current, hsame.autoSelected]
  exact h

theorem exec_currentMethod_of_settled (app : Application) (h : s.passport.Settled id) :
    exec (currentMethod app true) s = (.ok id, s) := by
  rw [exec_currentMethod, selection_true]
  rcases h with hkeep | ⟨hauto, hcurrent, htaken⟩
  · rw [hkeep]
    rfl
  · have hsame : s.passport.autoSelect id = s.passport := by
      rw [autoSelect, ← hcurrent, ← htaken]
    rw [hauto, exec_select_automatic, hsame]

/-- A check leaves everything that the choice depends on but the method in use. -/
theorem onlyCatalog_of_exec_currentMethod_ok
    (h : exec (currentMethod app true) s = (.ok id, s')) :
    s'.passport.OnlyCatalog ↔ s.passport.OnlyCatalog := by
  obtain ⟨auto, hs'⟩ := exec_currentMethod_ok h
  rw [hs']
  rfl

/-- Where there is nothing to choose, it does not matter which method is in use. -/
theorem reselection_autoSelect (h : p.NoChoice) (id : String) :
    (p.autoSelect id).reselection = p.reselection := by
  have hcandidates : (p.autoSelect id).candidates = p.candidates := rfl
  have hfallback : (p.autoSelect id).fallback = p.fallback := rfl
  rcases h with hone | ⟨hnil, hempty⟩
  · obtain ⟨o, ho⟩ := List.length_eq_one_iff.mp hone
    simp only [reselection, hcandidates, ho]
  · simp only [reselection, hcandidates, hfallback, hnil]

/-- A check settles the method, unless it was chosen from the catalog for want of candidates. -/
theorem settled_of_exec_currentMethod_ok (h : exec (currentMethod app true) s = (.ok id, s'))
    (hcandidates : ¬ s.passport.OnlyCatalog) : s'.passport.Settled id := by
  rcases mustAsk_or_noChoice_or_choiceStands s.passport with hask | hno | ⟨hmany, hstands⟩
  · obtain ⟨hmany, -⟩ : 2 ≤ s.passport.candidates.length ∧ ¬ s.passport.ChoiceStands :=
      hask.resolve_left hcandidates
    have hne : s.passport.candidates ≠ [] := List.ne_nil_of_length_pos (by omega)
    rw [exec_currentMethod_of_mustAsk app hask] at h
    split at h
    case isTrue hmem =>
      cases h
      rw [offer_of_candidates_ne_nil hne] at hmem
      -- the answer is a choice that stands from now on
      obtain ⟨id', hcurrent, -, hkeep⟩ :=
        reselection_of_choiceStands (p := s.passport.setCurrent (methodAnswer app s)) hmany
          ⟨rfl, _, rfl, hmem⟩
      obtain rfl : methodAnswer app s = id' := Option.some.inj hcurrent
      exact .inl hkeep
    case isFalse => cases (Prod.mk.inj h).1
  · obtain ⟨id', hre, -⟩ := reselection_of_noChoice hno
    rw [exec_currentMethod, selection_true, hre, exec_select_automatic] at h
    cases h
    exact .inr ⟨(reselection_autoSelect hno _).trans hre, rfl, rfl⟩
  · obtain ⟨id', hexec, hcurrent, -⟩ := exec_currentMethod_of_choiceStands app hmany hstands
    rw [hexec] at h
    cases h
    obtain ⟨id', hcurrent', -, hkeep⟩ := reselection_of_choiceStands hmany hstands
    obtain rfl : id = id' := Option.some.inj (hcurrent.symm.trans hcurrent')
    exact .inl hkeep

/-- A choice from the catalog is asked for again. -/
theorem exec_currentMethod_of_onlyCatalog (app : Application) (h : s.passport.OnlyCatalog) :
    exec (currentMethod app true) s =
      if methodAnswer app s ∈ s.passport.fallback.map (·.id) then
        (.ok (methodAnswer app s),
          { passport := s.passport.setCurrent (methodAnswer app s)
            calls := s.passport.methodPrompt :: s.calls })
      else (.error .invalidSelection, { s with calls := s.passport.methodPrompt :: s.calls }) := by
  rw [exec_currentMethod_of_mustAsk app (.inl h), offer_of_candidates_eq_nil h.1]

/-- A second check finds the same and changes nothing, exactly if there was a candidate or nothing
to choose at all. -/
theorem exec_currentMethod_again_iff (app' : Application)
    (h : exec (currentMethod app true) s = (.ok id, s'))
    (hsame : s'.passport.SameMethods t.passport) :
    exec (currentMethod app' true) t = (.ok id, t) ↔ ¬ s.passport.OnlyCatalog := by
  refine ⟨fun hagain hcatalog => ?_, fun hcandidates =>
    exec_currentMethod_of_settled app'
      ((settled_of_exec_currentMethod_ok h hcandidates).of_sameMethods hsame)⟩
  have hcatalog' : t.passport.OnlyCatalog :=
    hsame.onlyCatalog_iff.mpr ((onlyCatalog_of_exec_currentMethod_ok h).mpr hcatalog)
  have hcalls : (exec (currentMethod app' true) t).2.calls = t.passport.methodPrompt :: t.calls :=
    (calls_exec_currentMethod app' t).1 (.inl hcatalog')
  rw [hagain] at hcalls
  exact List.ne_cons_self hcalls

/-! ### The same reply for the second time -/

variable {c c' c₂ c₂' : Context}

/-- A context that takes the reply of another one in the same kind of dialog. -/
structure SameReply (c c₂ : Context) : Prop where
  status : c₂.status = c.status
  template : c₂.template? = c.template?
  anonymous : c₂.anonymous = c.anonymous

/-- Whether a reply leads to a check of the method in use. -/
def Checks (c : Context) (p : Passport) : Prop :=
  warningsWith c .methodsAllowed ≠ [] ∧ c.anonymous = false ∧ p.anonymous = false ∧
    c.template? ≠ some .synchronise

instance (c : Context) (p : Passport) : Decidable (Checks c p) :=
  inferInstanceAs (Decidable (_ ∧ _ ∧ _ ∧ _))

namespace SameReply

theorem warningsWith_eq (h : SameReply c c₂) (k : KnownCode) :
    warningsWith c₂ k = warningsWith c k := by
  rw [warningsWith, warningsWith, h.status]

theorem checks_iff (h : SameReply c c₂) (hanon : q.anonymous = p.anonymous) :
    Checks c₂ q ↔ Checks c p := by
  rw [Checks, Checks, h.warningsWith_eq, h.anonymous, h.template, hanon]

end SameReply

/-- The methods that a reply allows are taken over once. -/
theorem enrolledFrom_of_sameReply (h : SameReply c c₂)
    (hq : q.enrolled = (enrolledFrom c p).enrolled) : enrolledFrom c₂ q = q := by
  rw [enrolledFrom, h.warningsWith_eq, enroll]
  rw [enrolledFrom, enroll] at hq
  split
  case isTrue => rfl
  case isFalse hne =>
    rw [if_neg hne] at hq
    dsimp only at hq
    rw [← hq]

/-- **A second delivery.** Where the first one has succeeded, the second one does nothing, unless
the user is asked to choose from the catalog again. -/
theorem exec_checkAllowedMethods_again (app' : Application) (hreply : SameReply c c₂)
    (h : exec (checkAllowedMethods app c) s = (.ok c', s'))
    (hsame : s'.passport.SameMethods t.passport)
    (hanon : t.passport.anonymous = s.passport.anonymous) :
    exec (checkAllowedMethods app' c₂) t =
      if Checks c₂ t.passport ∧ t.passport.OnlyCatalog then
        if methodAnswer app' t ∈ t.passport.fallback.map (·.id) then
          (.ok (if t.passport.current = some (methodAnswer app' t) then c₂
              else { c₂ with again := true }),
            { passport := t.passport.setCurrent (methodAnswer app' t)
              calls := t.passport.methodPrompt :: t.calls })
        else (.error .invalidSelection, { t with calls := t.passport.methodPrompt :: t.calls })
      else (.ok c₂, t) := by
  have henrolled : s'.passport.enrolled = (enrolledFrom c s.passport).enrolled := by
    obtain ⟨current, auto, hs'⟩ := passport_exec_checkAllowedMethods app c s
    rw [h] at hs'
    rw [hs']
  rw [exec_checkAllowedMethods, enrolledFrom_of_sameReply hreply (hsame.enrolled.trans henrolled)]
  dsimp only
  by_cases hchecks : Checks c₂ t.passport
  · rw [if_pos (by exact hchecks)]
    by_cases hcatalog : t.passport.OnlyCatalog
    · have hboth : Checks c₂ t.passport ∧ t.passport.OnlyCatalog := ⟨hchecks, hcatalog⟩
      rw [if_pos hboth, exec_currentMethod_of_onlyCatalog app' hcatalog]
      by_cases hmem : methodAnswer app' t ∈ t.passport.fallback.map (·.id)
      · simp only [if_pos hmem]
      · simp only [if_neg hmem]
    · rw [exec_checkAllowedMethods] at h
      dsimp only at h
      rw [if_pos (by exact (hreply.checks_iff hanon).mp hchecks)] at h
      rcases hid : exec (currentMethod app true)
        { s with passport := enrolledFrom c s.passport } with ⟨e | id, s₁⟩
      · rw [hid] at h
        cases (Prod.mk.inj h).1
      · rw [hid] at h
        obtain ⟨-, rfl⟩ := Prod.mk.inj h
        have hagain : exec (currentMethod app' true) t = (.ok id, t) :=
          (exec_currentMethod_again_iff app' hid hsame).mpr fun hfirst =>
            hcatalog (hsame.onlyCatalog_iff.mpr
              ((onlyCatalog_of_exec_currentMethod_ok hid).mpr hfirst))
        obtain ⟨auto, hs₁⟩ := exec_currentMethod_ok hid
        have hcurrent : t.passport.current = some id := by rw [hsame.current, hs₁]
        rw [if_neg fun h => hcatalog h.2]
        simp only [hagain, hcurrent, if_true]
  · rw [if_neg (by exact hchecks), if_neg fun h => hchecks h.1]

/-- The user is asked to choose from the catalog again and chooses another method. -/
def ChoosesAnew (app : Application) (s : Session) : Prop :=
  s.passport.OnlyCatalog ∧ methodAnswer app s ∈ s.passport.fallback.map (·.id) ∧
    s.passport.current ≠ some (methodAnswer app s)

/-- The flag is raised if the user chooses anew. -/
theorem again_of_exec_checkAllowedMethods_again (hreply : SameReply c c₂)
    (h : exec (checkAllowedMethods app c) s = (.ok c', s')) (hagain : c₂.again = false)
    (hsame : s'.passport.SameMethods t.passport)
    (hanon : t.passport.anonymous = s.passport.anonymous)
    (h₂ : exec (checkAllowedMethods app' c₂) t = (.ok c₂', t')) :
    c₂'.step = c₂.step ∧ (c₂'.again ↔ Checks c₂ t.passport ∧ ChoosesAnew app' t) := by
  rw [exec_checkAllowedMethods_again app' hreply h hsame hanon] at h₂
  split at h₂
  case isTrue hasks =>
    split at h₂
    case isTrue hmem =>
      rw [← Except.ok.inj (Prod.mk.inj h₂).1]
      split
      case isTrue hkept =>
        exact ⟨rfl, iff_of_false (by simp [hagain]) fun hanew => hanew.2.2.2 hkept⟩
      case isFalse hother => exact ⟨rfl, iff_of_true rfl ⟨hasks.1, hasks.2, hmem, hother⟩⟩
    case isFalse => cases (Prod.mk.inj h₂).1
  case isFalse hasks =>
    rw [← Except.ok.inj (Prod.mk.inj h₂).1]
    exact ⟨rfl, iff_of_false (by simp [hagain]) fun hanew => hasks ⟨hanew.1, hanew.2.1⟩⟩

theorem sameMethods_forgetRefusedPin (c : Context) (s : Session) :
    s.passport.SameMethods (perform (forgetRefusedPin c) s).2.passport ∧
      (perform (forgetRefusedPin c) s).2.passport.anonymous = s.passport.anonymous := by
  obtain ⟨pin, calls, hforget⟩ := perform_forgetRefusedPin c s
  rw [hforget]
  exact ⟨⟨rfl, rfl, rfl, rfl, rfl⟩, rfl⟩

/-- After a second delivery the flag is up if the user has chosen anew, or where a challenge has led
on to the second step. -/
theorem again_of_second_reaction {result : Except Error Unit} (hreply : SameReply c c₂)
    (h : exec (react app c) s = (.ok c', s')) (hagain : c₂.again = false)
    (hsame : s'.passport.SameMethods t.passport)
    (hanon : t.passport.anonymous = s.passport.anonymous)
    (h₂ : perform (unlessFailing c₂ (react app' c₂)) t = ((result, c₂'), t')) :
    c₂'.again ↔
      (Checks c₂ t.passport ∧ ChoosesAnew app' (perform (forgetRefusedPin c₂) t).2) ∨
      (c₂.step = some .first ∧ c₂'.step = some .second) := by
  -- the checks of the two deliveries, and the sessions in which they are made
  obtain ⟨c₁, s₁, hfirst, -⟩ := exec_react_ok h
  obtain ⟨challenge, hs', -⟩ := exec_react_after_check app c s
  rw [h, hfirst] at hs'
  obtain ⟨-, hs⟩ := sameMethods_forgetRefusedPin c s
  obtain ⟨hu, huanon⟩ := sameMethods_forgetRefusedPin c₂ t
  generalize hu' : (perform (forgetRefusedPin c₂) t).2 = u at hu huanon ⊢
  have hmethods : s₁.passport.SameMethods u.passport := by
    have hs₁ : s₁.passport.SameMethods t.passport := by
      rw [hs'] at hsame
      exact ⟨hsame.bpd, hsame.catalog, hsame.enrolled, hsame.current, hsame.autoSelected⟩
    exact hs₁.trans hu
  have hanon' : u.passport.anonymous = (perform (forgetRefusedPin c) s).2.passport.anonymous := by
    rw [huanon, hanon, hs]
  have hchecks : Checks c₂ t.passport ↔ Checks c₂ u.passport := by rw [Checks, Checks, huanon]
  rw [hchecks]
  cases result with
  | ok =>
    obtain ⟨c₃, t₃, hsecond, hreceived⟩ := exec_react_ok (perform_unlessFailing_ok.mp h₂)
    rw [hu'] at hsecond
    obtain ⟨hstep, hflag⟩ :=
      again_of_exec_checkAllowedMethods_again hreply hfirst hagain hmethods hanon' hsecond
    have hraised := again_perform_receiveChallenge c₃ (perform (reportChangedIds c₃) t₃).2
    rwa [hreceived, hstep, hflag] at hraised
  | error e =>
    obtain ⟨hfailed, rfl⟩ := perform_unlessFailing_error.mp h₂
    have hsecond := exec_react_error hfailed
    rw [hu', exec_checkAllowedMethods_again app' hreply hfirst hmethods hanon'] at hsecond
    refine iff_of_false (by simp [hagain]) ?_
    rintro (⟨hcheck, hcatalog, hmem, -⟩ | ⟨hone, htwo⟩)
    · rw [if_pos ⟨hcheck, hcatalog⟩, if_pos hmem] at hsecond
      cases (Prod.mk.inj hsecond).1
    · rw [hone] at htwo
      cases htwo

/-- **The second check.** Let a check of the method in use succeed. With the same methods to choose
from, a second one finds the same method without asking the user and changes nothing, exactly if
there was a candidate, or nothing to choose at all. Otherwise the user is asked to choose from the
catalog once more, and that answer counts. Hence a reply that names the allowed methods and is
delivered a second time raises the flag that repeats the opening, apart from a challenge that leads
on to the second step, exactly if the user has to choose from the catalog again and chooses another
method. -/
theorem second_check_settled_iff (app app' : Application) :
    (∀ {s s' t : Session} {id : String}, exec (currentMethod app true) s = (.ok id, s') →
      s'.passport.SameMethods t.passport →
      (exec (currentMethod app' true) t = (.ok id, t) ↔ ¬ s.passport.OnlyCatalog) ∧
      (s.passport.OnlyCatalog → exec (currentMethod app' true) t =
        if methodAnswer app' t ∈ t.passport.fallback.map (·.id) then
          (.ok (methodAnswer app' t),
            { passport := t.passport.setCurrent (methodAnswer app' t)
              calls := t.passport.methodPrompt :: t.calls })
        else (.error .invalidSelection, { t with calls := t.passport.methodPrompt :: t.calls }))) ∧
    ∀ {c c' c₂ c₂' : Context} {s s' t t' : Session} {result : Except Error Unit},
      perform (handle app .messageSent c) s = ((.ok (), c'), s') →
      SameReply c c₂ → c₂.again = false → s'.passport.SameMethods t.passport →
      t.passport.anonymous = s.passport.anonymous →
      perform (handle app' .messageSent c₂) t = ((result, c₂'), t') →
      (c₂'.again ↔
        (Checks c₂ t.passport ∧ ChoosesAnew app' (perform (forgetRefusedPin c₂) t).2) ∨
        (c₂.step = some .first ∧ c₂'.step = some .second)) := by
  refine ⟨fun hfirst hsame => ⟨exec_currentMethod_again_iff app' hfirst hsame, fun hcatalog => ?_⟩,
    fun hfirst hreply hagain hsame hanon hsecond => ?_⟩
  · exact exec_currentMethod_of_onlyCatalog app' (hsame.onlyCatalog_iff.mpr
      ((onlyCatalog_of_exec_currentMethod_ok hfirst).mpr hcatalog))
  · exact again_of_second_reaction hreply (perform_unlessFailing_ok.mp hfirst) hagain hsame hanon
      hsecond

/-! ### A sample of a repeated choice -/

/-- A passport whose user may use none of the two methods of the catalog. -/
def strandedPassport : Passport := { twoMethodsPassport with enrolled := .ofNames ["944"] }

/-- A reply that says so. -/
def strandingStatus : ReplyStatus where
  global := [⟨"3920", "Zugelassene Verfahren", ["944"], none, none⟩]
  segment := []
  data := ∅

/-- A dialog with this reply. -/
def strandedContext : Context :=
  { Context.ofTemplate .start with status := some strandingStatus }

/-- The user chooses one method when asked first and the other one when asked again, and so the same
reply repeats the opening twice. -/
theorem second_check_of_stranded_choice :
    ∃ s' c' t c₂' t',
      exec (currentMethod (steadyApplication "912") true) ⟨strandedPassport, []⟩ =
        (.ok "912", s') ∧
      exec (currentMethod (steadyApplication "942") true) s' ≠ (.ok "912", s') ∧
      (exec (currentMethod (steadyApplication "942") true) s').1 = .ok "942" ∧
      perform (handle (steadyApplication "912") .messageSent strandedContext)
        ⟨strandedPassport, []⟩ = ((.ok (), c'), t) ∧
      perform (handle (steadyApplication "942") .messageSent strandedContext) t =
        ((.ok (), c₂'), t') ∧
      c₂'.again := by
  let p := strandedPassport
  let checked := exec (currentMethod (steadyApplication "912") true) ⟨p, []⟩
  let first := perform (handle (steadyApplication "912") .messageSent strandedContext) ⟨p, []⟩
  let second := perform (handle (steadyApplication "942") .messageSent strandedContext) first.2
  have hchecked : checked = (.ok "912", checked.2) := rfl
  have hfirst : first = ((.ok (), first.1.2), first.2) := rfl
  have hsecond : second = ((.ok (), second.1.2), second.2) := rfl
  have hstranded : p.OnlyCatalog := by decide
  obtain ⟨hcheck, hdelivery⟩ :=
    second_check_settled_iff (steadyApplication "912") (steadyApplication "942")
  obtain ⟨hsame, hagain⟩ := hcheck hchecked ⟨rfl, rfl, rfl, rfl, rfl⟩
  have hanew := (hdelivery hfirst ⟨rfl, rfl, rfl⟩ rfl ⟨rfl, rfl, rfl, rfl, rfl⟩ rfl hsecond).mpr
    (.inl ⟨by decide, by decide, by decide, by decide⟩)
  refine ⟨_, _, _, _, _, hchecked, fun h => hsame.mp h hstranded, ?_, hfirst, hsecond, hanew⟩
  rw [hagain hstranded]
  rfl

end TanDialog.Passport
