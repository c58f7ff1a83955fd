import TanDialog.Dialog.Script
import TanDialog.Proofs.Dialog.Likeness

/-!
# Secrets flow only into signatures

To an observer who sees neither PINs nor TANs nor signatures, two users look alike who give the same
answers otherwise, as long as they leave the same requests for secrets unanswered
(`Likeness.butSecrets`). If the bank does not look at the signatures either, a series of runs takes
the same course with both (`secrets_only_in_signatures`).
-/

namespace TanDialog

/-- Users who give the same answers, except that they have different secrets; a request for one is
left unanswered by both or by none. -/
structure Application.SameButSecrets (app app' : Application) : Prop where
  pin : ∀ calls, (app'.answer (.requestPin :: calls)).isEmpty =
    (app.answer (.requestPin :: calls)).isEmpty
  tan : ∀ prompt flicker calls, (app'.answer (.requestTan prompt flicker :: calls)).isEmpty =
    (app.answer (.requestTan prompt flicker :: calls)).isEmpty
  method : ∀ options calls,
    app.answer (.selectMethod options :: calls) = app'.answer (.selectMethod options :: calls)
  medium : ∀ default calls,
    app.answer (.requestTanMedia default :: calls) = app'.answer (.requestTanMedia default :: calls)
  encodeSegment : app.encodeSegment = app'.encodeSegment
  challengeClass : app.challengeClass = app'.challengeClass

/-- An event without its signature. -/
def BankEvent.unsigned : BankEvent → BankEvent
  | .encoded request outcome => .encoded request outcome
  | .sent message _ delivery => .sent message "" delivery

/-- The bank does not look at signatures, neither at the one of a message nor at earlier ones. -/
structure Bank.IgnoresSignatures (bank : Bank) : Prop where
  encode : ∀ events events' request,
    events.map BankEvent.unsigned = events'.map BankEvent.unsigned →
      bank.encode events request = bank.encode events' request
  send : ∀ events events' message sig sig',
    events.map BankEvent.unsigned = events'.map BankEvent.unsigned →
      bank.send events message sig = bank.send events' message sig'

/-- The same bank with another user. -/
def Parties.withApplication (parties : Parties) (app : Application) : Parties :=
  { parties with application := app }

/-- The session with another PIN, or without one. -/
def Session.withPin (s : Session) (pin : Option String) : Session :=
  { s with passport := { s.passport with pin } }

/-- The connection with another PIN, or without one. -/
def Connection.withPin (n : Connection) (pin : Option String) : Connection :=
  { n with session := n.session.withPin pin }

namespace Likeness

/-- The likeness for an observer who sees no secrets. -/
def butSecrets : Likeness where
  texts _ _ := True
  replies := Eq
  texts_empty := trivial
  texts_signature _ _ := trivial
  global_eq h := by rw [h]
  segment_eq h := by rw [h]
  response_eq h := by rw [h]

/-! ### What is alike but for secrets -/

theorem applications_butSecrets {app app' : Application} (h : app.SameButSecrets app') :
    butSecrets.Applications app app' where
  pin calls := ⟨trivial, h.pin calls⟩
  tan prompt flicker calls := ⟨trivial, h.tan prompt flicker calls⟩
  method := h.method
  medium := h.medium
  encodeSegment := h.encodeSegment
  challengeClass := h.challengeClass

theorem deliveries_butSecrets {delivery delivery' : Delivery} :
    butSecrets.Deliveries delivery delivery' ↔ delivery = delivery' := by
  rw [deliveries_iff id fun _ _ => Iff.rfl, Delivery.mapData_id, Delivery.mapData_id]

theorem events_butSecrets {e e' : BankEvent} :
    butSecrets.Events e e' ↔ e.unsigned = e'.unsigned := by
  constructor
  · intro h
    cases h with
    | encoded request outcome => rfl
    | sent message _ hdelivery =>
      rw [deliveries_butSecrets.mp hdelivery]
      rfl
  · intro h
    cases e with
    | encoded request outcome =>
      cases e' with
      | encoded request' outcome' =>
        obtain ⟨rfl, rfl⟩ := BankEvent.encoded.inj h
        exact .encoded _ _
      | sent => cases h
    | sent message sig delivery =>
      cases e' with
      | encoded => cases h
      | sent message' sig' delivery' =>
        obtain ⟨rfl, -, rfl⟩ := BankEvent.sent.inj h
        exact .sent _ trivial (deliveries_butSecrets.mpr rfl)

theorem forall₂_events_butSecrets {events events' : List BankEvent} :
    List.Forall₂ butSecrets.Events events events' ↔
      events.map BankEvent.unsigned = events'.map BankEvent.unsigned := by
  rw [← List.forall₂_eq_eq_eq, List.forall₂_map_left_iff, List.forall₂_map_right_iff]
  simp only [← events_butSecrets]

theorem banks_butSecrets {bank : Bank} (h : bank.IgnoresSignatures) :
    butSecrets.Banks bank bank where
  encode events events' request hevents :=
    h.encode events events' request (forall₂_events_butSecrets.mp hevents)
  send events events' message sig sig' hevents _ :=
    deliveries_butSecrets.mpr
      (h.send events events' message sig sig' (forall₂_events_butSecrets.mp hevents))

/-- Lists are equal if their members are. -/
theorem eq_of_forall₂ {α : Type} {R : α → α → Prop} (hR : ∀ a a', R a a' → a = a') {l l' : List α}
    (h : List.Forall₂ R l l') : l = l' := by
  have heq := h.imp hR
  rwa [List.forall₂_eq_eq_eq] at heq

theorem eq_of_outcomes_butSecrets {o o' : Outcome} (h : butSecrets.Outcomes o o') : o = o' := by
  rw [← o.mapData_id, ← o'.mapData_id]
  exact h.mapData_eq fun hreplies => hreplies

/-- Whether a PIN is known can be seen, and nothing else about it. -/
theorem rel_butSecrets {pin pin' : Option String} :
    Option.Rel butSecrets.texts pin pin' ↔ pin'.isSome = pin.isSome := by
  constructor
  · intro h
    cases h with
    | some _ => rfl
    | none => rfl
  · intro h
    cases pin with
    | none =>
      obtain rfl : pin' = none := by simpa using h
      exact .none
    | some value =>
      obtain ⟨value', rfl⟩ := Option.isSome_iff_exists.mp h
      exact .some trivial

theorem sessions_butSecrets {s s' : Session} :
    butSecrets.Sessions s s' ↔
      ∃ pin : Option String, pin.isSome = s.passport.pin.isSome ∧ s' = s.withPin pin := by
  obtain ⟨p, calls⟩ := s
  obtain ⟨p', calls'⟩ := s'
  constructor
  · rintro ⟨hpassport, hcalls⟩
    obtain rfl : calls' = calls := hcalls
    obtain @⟨pin, hpin⟩ := hpassport
    exact ⟨pin, rel_butSecrets.mp hpin, rfl⟩
  · rintro ⟨pin, hpin, hs'⟩
    obtain ⟨rfl, rfl⟩ := Session.mk.inj hs'
    exact ⟨⟨rel_butSecrets.mpr hpin⟩, rfl⟩

end Likeness

namespace Dialog

open Likeness

/-- **Secrets flow only into signatures.** Let two users give the same answers but for PINs and
TANs, and let the bank ignore signatures. Then from connections that differ only in the PIN they
know, a series of runs has the same outcomes. The same requests are encoded, the same messages are
sent and answered, and the same calls are made; and the connections differ in the end only in the
PIN and in the signatures. -/
theorem secrets_only_in_signatures {parties : Parties} {app : Application}
    (happ : parties.application.SameButSecrets app) (hbank : parties.bank.IgnoresSignatures)
    (commands : List Command) (n : Connection) {pin : Option String}
    (hpin : pin.isSome = n.session.passport.pin.isSome) :
    let run := perform (runAll parties commands) n
    let run' := perform (runAll (parties.withApplication app) commands) (n.withPin pin)
    run.1 = run'.1 ∧
    run.2.events.map BankEvent.unsigned = run'.2.events.map BankEvent.unsigned ∧
    run.2.clock = run'.2.clock ∧
    ∃ pin' : Option String, pin'.isSome = run.2.session.passport.pin.isSome ∧
      run'.2.session = run.2.session.withPin pin' := by
  intro run run'
  have hsides : butSecrets.BothSides parties (parties.withApplication app) :=
    ⟨applications_butSecrets happ, banks_butSecrets hbank, rfl⟩
  have hstart : butSecrets.Connections n (n.withPin pin) :=
    ⟨sessions_butSecrets.mpr ⟨pin, hpin, rfl⟩, forall₂_events_butSecrets.mpr rfl, rfl⟩
  obtain ⟨houtcomes, hsession, hevents, hclock⟩ := agree_runAll hsides commands _ _ hstart
  have hsame : run.1 = run'.1 := eq_of_forall₂ (fun _ _ => eq_of_outcomes_butSecrets) houtcomes
  exact ⟨hsame, forall₂_events_butSecrets.mp hevents, hclock, sessions_butSecrets.mp hsession⟩

/-! ### A sample series -/

/-- A user who enters a TAN whenever one is asked for. -/
def tanApplication (tan : String) : Application :=
  ApplicationScript.application { tans := [tan] }

/-- This user in dialogs with a bank that always sends a challenge. -/
def tanParties : Parties := challengingParties.withApplication (tanApplication "111111")

/-- With another PIN and another TAN, the second step of a dialog differs in its signature only. -/
theorem secrets_only_in_signatures_sample :
    let run := perform (runAll tanParties [.start .start none]) opticalConnection
    let run' :=
      perform (runAll (tanParties.withApplication (tanApplication "222222")) [.start .start none])
        (opticalConnection.withPin (some "99999"))
    run.2.events.filterMap BankEvent.received? = [([], "12345|111111"), ([], "12345|")] ∧
    run'.2.events.filterMap BankEvent.received? = [([], "99999|222222"), ([], "99999|")] ∧
    run.1 = run'.1 ∧
    run.2.events.map BankEvent.unsigned = run'.2.events.map BankEvent.unsigned ∧
    ∃ pin' : Option String, run'.2.session = run.2.session.withPin pin' := by
  -- the script holds one TAN, and every later request is left unanswered
  have hentered (tan : String) (hne : tan.isEmpty = false) (k : Nat) :
      ([tan].getD k "").isEmpty = decide (k ≠ 0) := by
    cases k with
    | zero => exact hne
    | succ k => rfl
  have happ : tanParties.application.SameButSecrets (tanApplication "222222") :=
    { pin := fun _ => rfl
      tan := fun prompt flicker calls =>
        (hentered "222222" rfl _).trans (hentered "111111" rfl _).symm
      method := fun _ _ => rfl
      medium := fun _ _ => rfl
      encodeSegment := rfl
      challengeClass := rfl }
  have hbank : tanParties.bank.IgnoresSignatures :=
    { encode := fun _ _ _ _ => rfl, send := fun _ _ _ _ _ _ => rfl }
  have hpin : (some "99999").isSome = opticalConnection.session.passport.pin.isSome := rfl
  obtain ⟨houtcomes, hevents, -, pin', -, hsession⟩ :=
    secrets_only_in_signatures happ hbank [.start .start none] opticalConnection hpin
  refine ⟨?_, ?_, houtcomes, hevents, pin', hsession⟩
  · decide +kernel
  · decide +kernel

end Dialog

end TanDialog
