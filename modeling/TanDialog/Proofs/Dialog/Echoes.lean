import TanDialog.Dialog.Script
import TanDialog.Proofs.Dialog.Likeness
import TanDialog.Proofs.Reply.Echoes

/-!
# Echoes have no influence

To a dialog two replies look alike that differ only in what they echo from the request
(`Likeness.butEchoes`): whatever is read from a reply is the same. So with two banks whose replies
are the same but for echoes, a series of runs takes the same course from the same connection
(`echoes_without_influence`), and only the replies that are kept in statuses tell them apart. Two
scripts whose replies agree, one by one, at all paths that are not echoed make such banks
(`BankScript.AgreesButEchoes.bank`).
-/

namespace TanDialog

open PropertySet

/-- The delivery without the echoes in its reply. -/
abbrev Delivery.withoutEchoes (d : Delivery) : Delivery := d.mapData PropertySet.withoutEchoes

/-- The event without the echoes in its reply. -/
abbrev BankEvent.withoutEchoes (e : BankEvent) : BankEvent := e.mapData PropertySet.withoutEchoes

/-- The outcome without the echoes in its replies. -/
abbrev Outcome.withoutEchoes (o : Outcome) : Outcome := o.mapData PropertySet.withoutEchoes

/-- Banks that act alike but for echoes, in view of events that are the same but for echoes. -/
structure Bank.AgreesButEchoes (bank bank' : Bank) : Prop where
  encode : ∀ events events' request,
    events.map BankEvent.withoutEchoes = events'.map BankEvent.withoutEchoes →
      bank.encode events request = bank'.encode events' request
  send : ∀ events events' message sig,
    events.map BankEvent.withoutEchoes = events'.map BankEvent.withoutEchoes →
      (bank.send events message sig).withoutEchoes = (bank'.send events' message sig).withoutEchoes

/-- The same user with another bank. -/
def Parties.withBank (parties : Parties) (bank : Bank) : Parties := { parties with bank }

/-! ### Scripts -/

/-- Scripts whose replies agree, one by one, at all paths that are not echoed. -/
structure BankScript.AgreesButEchoes (s s' : BankScript) : Prop where
  replies : List.Forall₂ (fun d d' => ∀ path, isEcho path = false → d.get? path = d'.get? path)
    s.replies s'.replies
  stallAt_eq : s.stallAt = s'.stallAt
  rejectAt_eq : s.rejectAt = s'.rejectAt

/-- Events are counted alike by what does not depend on echoes. -/
theorem BankEvent.countP_eq_of_withoutEchoes (p : BankEvent → Bool)
    (hp : ∀ e : BankEvent, p e.withoutEchoes = p e) {events events' : List BankEvent}
    (h : events.map BankEvent.withoutEchoes = events'.map BankEvent.withoutEchoes) :
    events.countP p = events'.countP p := by
  simpa [List.countP_map, Function.comp_def, hp] using congrArg (List.countP p) h

/-- A scripted bank goes by how many requests, messages and replies there have been, which can be
told without looking into the replies. -/
theorem BankScript.AgreesButEchoes.bank {s s' : BankScript} (h : s.AgreesButEchoes s') :
    s.bank.AgreesButEchoes s'.bank := by
  have hreplies : s.replies.map PropertySet.withoutEchoes =
      s'.replies.map PropertySet.withoutEchoes :=
    Likeness.map_eq_of_forall₂ h.replies withoutEchoes_eq_iff.mpr
  refine ⟨fun events events' request he => ?_, fun events events' message sig he => ?_⟩
  · simp only [BankScript.bank, h.rejectAt_eq,
      BankEvent.countP_eq_of_withoutEchoes BankEvent.isEncoding (by simp) he]
  · simp only [BankScript.bank, h.stallAt_eq, List.length_filterMap_eq_countP,
      BankEvent.countP_eq_of_withoutEchoes BankEvent.isSending (by simp) he,
      BankEvent.countP_eq_of_withoutEchoes (·.reply?.isSome) (by simp) he,
      BankEvent.countP_eq_of_withoutEchoes (·.received?.isSome) (by simp) he]
    split
    · rfl
    -- either both scripts have come to their end, or both have a next reply
    · have hnext := congrArg (·[events'.countP (·.reply?.isSome)]?) hreplies
      simp only [List.getElem?_map] at hnext
      generalize s.replies[events'.countP (·.reply?.isSome)]? = next at hnext ⊢
      generalize s'.replies[events'.countP (·.reply?.isSome)]? = next' at hnext ⊢
      cases next with
      | none =>
        obtain rfl : next' = none := by simpa using hnext.symm
        rfl
      | some d =>
        obtain ⟨d', rfl, hd⟩ := Option.map_eq_some_iff.mp hnext.symm
        exact congrArg Delivery.replied hd.symm

namespace Likeness

/-- The likeness for an observer who passes over echoes. -/
def butEchoes : Likeness where
  texts := Eq
  replies d d' := d.withoutEchoes = d'.withoutEchoes
  texts_empty := rfl
  texts_signature hpin htan := by rw [hpin, htan]
  global_eq {d d'} h := by
    rw [← ReplyStatus.global_ofData_withoutEchoes d', ← h, ReplyStatus.global_ofData_withoutEchoes]
  segment_eq {d d'} h := by
    rw [← ReplyStatus.segment_ofData_withoutEchoes d', ← h,
      ReplyStatus.segment_ofData_withoutEchoes]
  response_eq {d d'} h := by rw [← find_withoutEchoes d', ← h, find_withoutEchoes]

/-! ### What is alike but for echoes -/

theorem applications_butEchoes (app : Application) : butEchoes.Applications app app where
  pin _ := ⟨rfl, rfl⟩
  tan _ _ _ := ⟨rfl, rfl⟩
  method _ _ := rfl
  medium _ _ := rfl
  encodeSegment := rfl
  challengeClass := rfl

theorem deliveries_butEchoes {delivery delivery' : Delivery} :
    butEchoes.Deliveries delivery delivery' ↔
      delivery.withoutEchoes = delivery'.withoutEchoes :=
  deliveries_iff PropertySet.withoutEchoes fun _ _ => Iff.rfl

theorem events_butEchoes {e e' : BankEvent} :
    butEchoes.Events e e' ↔ e.withoutEchoes = e'.withoutEchoes := by
  constructor
  · intro h
    cases h with
    | encoded request outcome => rfl
    | sent message hsig hdelivery =>
      cases hsig
      exact congrArg (BankEvent.sent message _) (deliveries_butEchoes.mp hdelivery)
  · intro h
    cases e with
    | encoded request outcome =>
      cases e' with
      | encoded request' outcome' =>
        obtain ⟨rfl, rfl⟩ := BankEvent.encoded.inj h
        exact .encoded _ _
      | sent => cases h
    | sent message sig delivery =>
      cases e' with
      | encoded => cases h
      | sent message' sig' delivery' =>
        obtain ⟨rfl, rfl, hdelivery⟩ := BankEvent.sent.inj h
        exact .sent _ rfl (deliveries_butEchoes.mpr hdelivery)

theorem forall₂_events_butEchoes {events events' : List BankEvent} :
    List.Forall₂ butEchoes.Events events events' ↔
      events.map BankEvent.withoutEchoes = events'.map BankEvent.withoutEchoes := by
  rw [← List.forall₂_eq_eq_eq, List.forall₂_map_left_iff, List.forall₂_map_right_iff]
  simp only [← events_butEchoes]

theorem banks_butEchoes {bank bank' : Bank} (h : bank.AgreesButEchoes bank') :
    butEchoes.Banks bank bank' where
  encode events events' request hevents :=
    h.encode events events' request (forall₂_events_butEchoes.mp hevents)
  send events events' message sig sig' hevents hsig := by
    cases hsig
    exact deliveries_butEchoes.mpr
      (h.send events events' message sig (forall₂_events_butEchoes.mp hevents))

theorem rel_butEchoes {pin pin' : Option String} :
    Option.Rel butEchoes.texts pin pin' ↔ pin' = pin := by
  constructor
  · intro h
    cases h with
    | some h => exact congrArg some h.symm
    | none => rfl
  · rintro rfl
    cases pin' with
    | none => exact .none
    | some pin => exact .some rfl

theorem sessions_butEchoes {s s' : Session} : butEchoes.Sessions s s' ↔ s = s' := by
  obtain ⟨p, calls⟩ := s
  obtain ⟨p', calls'⟩ := s'
  constructor
  · rintro ⟨hpassport, hcalls⟩
    obtain rfl : calls' = calls := hcalls
    obtain @⟨pin, hpin⟩ := hpassport
    rw [rel_butEchoes.mp hpin]
  · intro h
    obtain ⟨rfl, rfl⟩ := Session.mk.inj h
    exact ⟨⟨rel_butEchoes.mpr rfl⟩, rfl⟩

end Likeness

namespace Dialog

open Likeness

/-- **Echoes have no influence.** Let two banks act alike, except that their replies may echo the
request in different ways. Then from the same connection a series of runs encodes the same requests,
sends the same messages under the same signatures and waits for the same time. It makes the same
calls and leaves the same passport, and its outcomes differ at most in the echoes of the replies
that are kept in them. -/
theorem echoes_without_influence {parties : Parties} {bank : Bank}
    (hbank : parties.bank.AgreesButEchoes bank) (commands : List Command) (n : Connection) :
    let run := perform (runAll parties commands) n
    let run' := perform (runAll (parties.withBank bank) commands) n
    run.1.map Outcome.withoutEchoes = run'.1.map Outcome.withoutEchoes ∧
    run.2.events.map BankEvent.withoutEchoes = run'.2.events.map BankEvent.withoutEchoes ∧
    run.2.clock = run'.2.clock ∧ run.2.session = run'.2.session := by
  have hsides : butEchoes.BothSides parties (parties.withBank bank) :=
    ⟨applications_butEchoes _, banks_butEchoes hbank, rfl⟩
  have hstart : butEchoes.Connections n n :=
    ⟨sessions_butEchoes.mpr rfl, forall₂_events_butEchoes.mpr rfl, rfl⟩
  obtain ⟨houtcomes, hsession, hevents, hclock⟩ := agree_runAll hsides commands _ _ hstart
  exact ⟨map_eq_of_forall₂ houtcomes fun ho => ho.mapData_eq fun hreplies => hreplies,
    forall₂_events_butEchoes.mp hevents, hclock, sessions_butEchoes.mp hsession⟩

/-! ### A sample series -/

/-- A bank that sends a challenge, and then a reply without anything. -/
def challengeScript : BankScript := { replies := [challengeReply, ∅] }

/-- The same bank, but with both replies it echoes a request that looks like another challenge. -/
def echoingScript : BankScript where
  replies :=
    [challengeReply.insert "orig_HKTAN.TAN2StepRes6.challenge" "Code 0815",
      .ofList [("orig_HKTAN.TAN2StepRes6.challenge", "Code 0815")]]

/-- The second step of a dialog is signed with the TAN for the challenge, and not for what is
echoed. -/
theorem echoes_without_influence_sample :
    let parties := challengingParties.withBank challengeScript.bank
    let run := perform (runAll parties [.start .start none]) opticalConnection
    let run' := perform (runAll (parties.withBank echoingScript.bank) [.start .start none])
      opticalConnection
    challengeScript.replies ≠ echoingScript.replies ∧
    run.2.events.filterMap (fun e => e.received?.map Prod.snd) = ["12345|111111", "12345|"] ∧
    run.1.map Outcome.withoutEchoes = run'.1.map Outcome.withoutEchoes ∧
    run.2.events.map BankEvent.withoutEchoes = run'.2.events.map BankEvent.withoutEchoes ∧
    run.2.session = run'.2.session := by
  have hscripts : challengeScript.AgreesButEchoes echoingScript := by
    refine ⟨.cons (withoutEchoes_eq_iff.mp ?_) (.cons (withoutEchoes_eq_iff.mp ?_) .nil), rfl, rfl⟩
    · decide +kernel
    · decide +kernel
  have hbank : (challengingParties.withBank challengeScript.bank).bank.AgreesButEchoes
      echoingScript.bank := hscripts.bank
  obtain ⟨houtcomes, hevents, -, hsession⟩ :=
    echoes_without_influence hbank [.start .start none] opticalConnection
  exact ⟨by decide +kernel, by decide +kernel, houtcomes, hevents, hsession⟩

end Dialog

end TanDialog
