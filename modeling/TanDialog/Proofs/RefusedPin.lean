import TanDialog.Proofs.Evolution

/-!
# A refused PIN

When the bank refuses the credentials, the passport forgets the PIN. From then on every PIN it knows
is one that the user has given since (`PinSince`), however the session evolves, and so is the PIN
that a message is signed with (`PinSince.exec_sign_ok`).
-/

namespace TanDialog

/-! ### Refused credentials -/

/-- The codes of the errors by which a bank refuses the credentials. -/
def refusalNumbers : List Nat := [9340, 9342, 9931, 9942]

theorem KnownCode.any_isAuthFailure_ofNumber? {n : Nat} :
    (ofNumber? n).any isAuthFailure ↔ n ∈ refusalNumbers := by
  constructor
  · intro h
    obtain ⟨k, hk, hfailure⟩ := Option.any_eq_true _ _ |>.mp h
    have hn : k.number = n := by simpa using List.find?_some hk
    subst hn
    cases k <;> first | decide | cases hfailure
  · intro h
    simp only [refusalNumbers, List.mem_cons, List.not_mem_nil, or_false] at h
    rcases h with rfl | rfl | rfl | rfl <;> decide

/-- Some return value is an error by which the bank refuses the credentials. -/
def ReplyStatus.RefusesPin (s : ReplyStatus) : Prop :=
  ∃ value ∈ s.all, value.isError ∧ ∃ number ∈ refusalNumbers, value.number? = some number

theorem ReplyStatus.isSome_authFailure? {s : ReplyStatus} :
    s.authFailure?.isSome ↔ s.RefusesPin := by
  have hknown (value : ReturnValue) : value.known?.any KnownCode.isAuthFailure ↔
      ∃ number ∈ refusalNumbers, value.number? = some number := by
    rw [ReturnValue.known?]
    cases value.number? with
    | none => simp
    | some n => simp [KnownCode.any_isAuthFailure_ofNumber?]
  simp only [authFailure?, errors, List.find?_isSome, List.mem_filter, hknown, RefusesPin,
    and_assoc]

/-! ### The calls of a session -/

variable {app : Application} {s s' : Session}

/-- Calls that have been made are not taken back. -/
theorem Session.Change.calls_suffix (h : s.Change app s') : s.calls <:+ s'.calls := by
  cases h with
  | call c => exact List.suffix_cons c s.calls
  | obtainPin _ => exact List.suffix_cons .requestPin s.calls
  | _ => exact List.suffix_refl s.calls

theorem Session.Evolves.calls_suffix (h : s.Evolves app s') : s.calls <:+ s'.calls := by
  induction h with
  | refl => exact List.suffix_refl s.calls
  | tail _ hchange ih => exact ih.trans hchange.calls_suffix

/-! ### PINs that have been given since -/

/-- A text is the answer to a request for the PIN that a session has made since it had made the
calls `since`. -/
def Session.GivenSince (app : Application) (since : List Call) (s : Session) (pin : String) :
    Prop :=
  ∃ calls, since <:+ calls ∧ .requestPin :: calls <:+ s.calls ∧
    pin = app.answer (.requestPin :: calls)

theorem Session.GivenSince.mono {since : List Call} {pin : String}
    (h : s.GivenSince app since pin) (hcalls : s.calls <:+ s'.calls) :
    s'.GivenSince app since pin := by
  obtain ⟨calls, hsince, hasked, hpin⟩ := h
  exact ⟨calls, hsince, hasked.trans hcalls, hpin⟩

/-- The PIN, if it is known, is one that the user has given since. -/
structure PinSince (app : Application) (since : List Call) (s : Session) : Prop where
  calls : since <:+ s.calls
  pin : ∀ pin, s.passport.pin = some pin → s.GivenSince app since pin

namespace PinSince

variable {since : List Call}

/-- Where the PIN is not known, every PIN is still to be given. -/
theorem of_none (hcalls : since <:+ s.calls) (hpin : s.passport.pin = none) :
    PinSince app since s where
  calls := hcalls
  pin := fun pin h => by
    rw [hpin] at h
    cases h

theorem change (h : PinSince app since s) (hchange : s.Change app s') : PinSince app since s' where
  calls := h.calls.trans hchange.calls_suffix
  pin := fun pin hpin => by
    -- a PIN that was known before was given before
    have hkept (hpin : s.passport.pin = some pin) : s'.GivenSince app since pin :=
      (h.pin pin hpin).mono hchange.calls_suffix
    cases hchange with
    | obtainPin _ => exact ⟨s.calls, h.calls, List.suffix_refl _, (Option.some.inj hpin).symm⟩
    | forgetPin => cases hpin
    | lookUp code =>
      refine hkept ?_
      rw [← hpin, Passport.lookedUp_eq]
    | enroll methods =>
      refine hkept ?_
      rw [← hpin, Passport.enroll_eq]
    | _ => exact hkept hpin

theorem evolves (h : PinSince app since s) (hevolves : s.Evolves app s') :
    PinSince app since s' := by
  induction hevolves with
  | refl => exact h
  | tail _ hchange ih => exact ih.change hchange

/-- A message is signed with a PIN that the user has given since. -/
theorem exec_sign_ok {message : List UInt8} {sig : String} (h : PinSince app since s)
    (hsign : exec (Passport.sign app message) s = (.ok sig, s')) :
    ∃ pin tan, sig = pin ++ "|" ++ tan ∧ s'.GivenSince app since pin := by
  rw [Passport.sign_eq] at hsign
  obtain ⟨pin, t, hpin, hwith⟩ := exec_bind_ok.mp hsign
  obtain ⟨rfl, rfl⟩ := Passport.exec_obtainPin_ok hpin
  have hevolves : (Passport.afterPin app s).Evolves app s' := by
    have hevolves := Passport.evolving_signWith app message (Passport.pinFor app s)
      (Passport.afterPin app s)
    rwa [perform_run, hwith] at hevolves
  have hgiven : (Passport.afterPin app s).GivenSince app since (Passport.pinFor app s) := by
    rw [Passport.pinFor, Passport.afterPin]
    -- a PIN that is not known is asked for now
    cases hknown : s.passport.pin with
    | some pin => exact (h.pin pin hknown).mono (List.suffix_refl _)
    | none => exact ⟨s.calls, h.calls, List.suffix_refl _, rfl⟩
  obtain ⟨tan, hsig⟩ := Passport.exec_signWith_ok hwith
  exact ⟨_, tan, hsig, hgiven.mono hevolves.calls_suffix⟩

end PinSince

/-! ### The reaction to the refusal -/

namespace Passport

variable {c : Context} {status : ReplyStatus}

/-- A refused PIN is forgotten, and the user is told. -/
theorem perform_forgetRefusedPin_of_refusesPin (hanon : c.anonymous = false)
    (hstatus : c.status = some status) (hrefuses : status.RefusesPin) (s : Session) :
    perform (forgetRefusedPin c) s =
      ((), { passport := { s.passport with pin := none }, calls := .wrongPin :: s.calls }) := by
  have hfailure : (c.status.bind ReplyStatus.authFailure?).isSome := by
    rw [hstatus]
    exact ReplyStatus.isSome_authFailure?.mpr hrefuses
  simp only [forgetRefusedPin, hanon, hfailure, Bool.not_false, Bool.and_true, if_true]
  rfl

/-- After a refusal the PIN is forgotten first, and the session evolves from there, whether or not
the reaction fails in the end. -/
theorem evolves_react_of_refusesPin (hanon : c.anonymous = false) (hstatus : c.status = some status)
    (hrefuses : status.RefusesPin) (s : Session) :
    ∃ t, s.Evolves app t ∧ t.passport.pin = none ∧ t.Evolves app (exec (react app c) s).2 := by
  have hforgotten := perform_forgetRefusedPin_of_refusesPin hanon hstatus hrefuses s
  have hevolves := evolving_forgetRefusedPin app c s
  rw [hforgotten] at hevolves
  refine ⟨_, hevolves, rfl, ?_⟩
  have hreact : exec (react app c) s =
      exec (reactFurther app c) (perform (forgetRefusedPin c) s).2 := rfl
  rw [hreact, hforgotten]
  exact evolving_reactFurther app c _

end Passport

end TanDialog
