import TanDialog.Proofs.Operations

/-!
# The request that announces an order

Under variant one a request goes ahead of the order and tells what it is about (`orderContent`): by
the hash of the encoded segment, and by a challenge class where the method needs one. Both come
from the application and from the parameters of the bank, and the passport stays as it is
(`exec_announcement`). There is no request if the application fails to give one of the two, or if
the bank has declared no hash mode that is known.
-/

namespace TanDialog.Passport

/-- The request that announces a task, with a medium, a challenge class and a hash. -/
def announcementOf (m : Method) (t : Task) (medium : String) (filled : Option Challenge.Filled)
    (hash : List UInt8) : Task where
  code := "HKTAN"
  version := m.version
  externalId := t.externalId
  kind := .tan
    { process := .announceOrder
      orderSegmentCode := t.code
      orderHash := some hash
      orderAccount := if 5 ≤ m.version ∧ m.needsOrderAccount then t.account else none
      challengeClass := (filled.map (·.id)).getD ""
      challengeParams := (filled.map (·.values)).getD []
      tanMedia := medium
      step2 := none
      task := none }

/-- The challenge class of a task, if the method needs one. -/
def classFor (app : Application) (m : Method) (t : Task) :
    Except Error (Option Challenge.Filled) :=
  if m.needsChallengeClass then app.challengeClass t m else .ok none

/-- The mode by which the bank hashes orders that are announced under a method. -/
def modeFor? (bpd : Option PropertySet) (m : Method) : Option HashMode :=
  bpd.bind (BankParameters.hashMode? · m.version)

/-- The hash of the encoded segment of a task. -/
def hashFor (app : Application) (m : Method) (bpd : Option PropertySet) (t : Task) :
    Except Error (List UInt8) :=
  match app.encodeSegment t, modeFor? bpd m with
  | .ok segment, some mode => .ok (mode.digest segment)
  | .ok _, none => .error .unknownHashMode
  | .error e, _ => .error e

/-- What a request says about a task: its challenge class and its hash. If both are not to be had,
the class is what the failure is about. -/
def orderContent (app : Application) (m : Method) (bpd : Option PropertySet) (t : Task) :
    Except Error (Option Challenge.Filled × List UInt8) :=
  match classFor app m t, hashFor app m bpd t with
  | .ok filled, .ok hash => .ok (filled, hash)
  | .ok _, .error e => .error e
  | .error e, _ => .error e

/-- A request `r` announces a task: the class and the encoding are those of the application, and
the hash is made in the mode of the bank. -/
def Announces (app : Application) (m : Method) (bpd : Option PropertySet) (medium : String)
    (t r : Task) : Prop :=
  ∃ filled segment mode, classFor app m t = .ok filled ∧ app.encodeSegment t = .ok segment ∧
    modeFor? bpd m = some mode ∧ r = announcementOf m t medium filled (mode.digest segment)

section

variable {app : Application} {m : Method} {bpd : Option PropertySet} {t : Task}

theorem announces_of_orderContent {content : Option Challenge.Filled × List UInt8}
    (h : orderContent app m bpd t = .ok content) (medium : String) :
    Announces app m bpd medium t (announcementOf m t medium content.1 content.2) := by
  rw [orderContent] at h
  split at h <;> cases h
  rename_i filled hash hclass hhash
  rw [hashFor] at hhash
  split at hhash <;> cases hhash
  rename_i segment mode hsegment hmode
  exact ⟨filled, segment, mode, hclass, hsegment, hmode, rfl⟩

end

/-! ### Making the request -/

/-- The calls by which a request is made, from the newest to the oldest. Without its challenge class
a task is not hashed. -/
def announcementCalls (app : Application) (m : Method) (p : Passport) (t : Task) : List Call :=
  (if (classFor app m t).isOk then [.encodeSegment t] else []) ++
    (if m.needsChallengeClass then [.challengeClass t m] else []) ++ mediumCalls p m.version m

theorem exec_obtainClass (app : Application) (m : Method) (t : Task) (s : Session) :
    exec (obtainClass app m t) s =
      (classFor app m t,
        { s with
          calls := (if m.needsChallengeClass then [.challengeClass t m] else []) ++ s.calls }) := by
  rw [obtainClass, classFor]
  split <;> rfl

theorem exec_orderHash (app : Application) (m : Method) (t : Task) (s : Session) :
    exec (orderHash app m t) s =
      (hashFor app m s.passport.bpd t, { s with calls := .encodeSegment t :: s.calls }) := by
  have hencode (s : Session) : exec (ExceptT.mk (pure (app.encodeSegment t)) : Action _) s =
      (app.encodeSegment t, s) := rfl
  simp only [orderHash, hashMode, exec_bind, exec_lift, Session.perform_call, hencode,
    Session.perform_getPassport, hashFor, modeFor?]
  cases app.encodeSegment t with
  | error e => rfl
  | ok segment =>
    dsimp only
    cases s.passport.bpd.bind (BankParameters.hashMode? · m.version) <;> rfl

/-- What comes of making a request; the passport stays as it is. -/
theorem exec_announcement (app : Application) (m : Method) (t : Task) (s : Session) :
    exec (announcement app m t) s =
      ((orderContent app m s.passport.bpd t).map fun content =>
          announcementOf m t (medium app s m.version m) content.1 content.2,
        { s with calls := announcementCalls app m s.passport t ++ s.calls }) := by
  simp only [announcement, exec_bind, exec_lift, perform_tanMedia, exec_obtainClass,
    exec_orderHash, orderContent, announcementCalls, List.append_assoc]
  cases classFor app m t with
  | error e => rfl
  | ok filled =>
    dsimp only
    cases hashFor app m s.passport.bpd t <;> rfl

/-- Adding the request for a task of variant one, in a message in front of the current one. -/
theorem exec_addRequests_one (app : Application) {m : Method} (hv : m.variant = .one) (id : TaskId)
    (t : Task) (a : Patching) (s : Session) :
    exec (addRequests app m id t a) s =
      ((orderContent app m s.passport.bpd t).map fun content =>
          { tasks :=
              a.tasks ++
                [announcementOf m t (medium app s m.version m) content.1 content.2]
            additions :=
              { a.additions with before := a.additions.before ++ [[a.tasks.length]] } },
        { s with calls := announcementCalls app m s.passport t ++ s.calls }) := by
  rw [addRequests]
  simp only [hv, exec_bind, exec_announcement]
  cases orderContent app m s.passport.bpd t <;> rfl

end TanDialog.Passport
