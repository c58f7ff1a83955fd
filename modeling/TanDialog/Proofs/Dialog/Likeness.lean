import Mathlib.Data.List.Forall2
import TanDialog.Proofs.Dialog.Series
import TanDialog.Proofs.Likeness

/-!
# Runs that look alike

What looks alike in a session looks alike in a run. If two users and two banks give answers that are
alike, then from connections that are alike every step of a run makes the same requests and sends
the same messages under signatures that look alike, and fails for the same reason if it fails
(`agree_exchange`, `agree_start`, `agree_sendJobs`). So does a whole series of runs
(`agree_runAll`).

A likeness may come from what an observer makes of a reply. Then outcomes that look alike are equal
once their replies are replaced by what is seen of them (`Outcomes.mapData_eq`).
-/

namespace TanDialog

/-! ### What is seen of replies -/

section

variable (see : PropertySet → PropertySet)

/-- The status with what is seen of its reply. -/
def ReplyStatus.mapData (x : ReplyStatus) : ReplyStatus := { x with data := see x.data }

/-- The context with what is seen of the last reply. -/
def Context.mapData (c : Context) : Context := { c with status := c.status.map (·.mapData see) }

/-- The outcome with what is seen of the replies in it. -/
def Outcome.mapData : Outcome → Outcome
  | .opened result => .opened (result.map (·.mapData see))
  | .sent result => .sent (result.map fun r => (r.1, r.2.map (·.mapData see)))

/-- The delivery with what is seen of its reply. -/
def Delivery.mapData : Delivery → Delivery
  | .replied data => .replied (see data)
  | .failed e => .failed e
  | .stalled => .stalled

/-- The event with what is seen of its reply. -/
def BankEvent.mapData : BankEvent → BankEvent
  | .encoded request outcome => .encoded request outcome
  | .sent message sig delivery => .sent message sig (delivery.mapData see)

namespace BankEvent

variable (e : BankEvent)

@[simp]
theorem isEncoding_mapData : (e.mapData see).isEncoding = e.isEncoding := by cases e <;> rfl

@[simp]
theorem isSending_mapData : (e.mapData see).isSending = e.isSending := by cases e <;> rfl

@[simp]
theorem received?_mapData : (e.mapData see).received? = e.received? := by
  rcases e with _ | ⟨_, _, _ | _ | _⟩ <;> rfl

@[simp]
theorem reply?_mapData : (e.mapData see).reply? = e.reply?.map see := by
  rcases e with _ | ⟨_, _, _ | _ | _⟩ <;> rfl

end BankEvent

end

theorem Outcome.mapData_id (o : Outcome) : o.mapData id = o := by
  cases o with
  | opened result =>
    cases result with
    | error e => rfl
    | ok c =>
      obtain ⟨anonymous, opening, queue, status, step, again⟩ := c
      cases status <;> rfl
  | sent result =>
    cases result with
    | error e => rfl
    | ok r => simp [mapData, Except.map, ReplyStatus.mapData]

theorem Delivery.mapData_id (delivery : Delivery) : delivery.mapData id = delivery := by
  cases delivery <;> rfl

namespace Likeness

variable (L : Likeness)

/-- Deliveries of replies that look alike, or failures of the same kind. -/
inductive Deliveries : Delivery → Delivery → Prop
  | replied {d d' : PropertySet} (h : L.replies d d') : Deliveries (.replied d) (.replied d')
  | failed (e : TransportError) : Deliveries (.failed e) (.failed e)
  | stalled : Deliveries .stalled .stalled

/-- Events that differ only in signatures and replies that look alike. -/
inductive Events : BankEvent → BankEvent → Prop
  | encoded (request : Request) (outcome : Except TransportError (List UInt8)) :
      Events (.encoded request outcome) (.encoded request outcome)
  | sent {sig sig' : String} {delivery delivery' : Delivery} (message : List UInt8)
      (hsig : L.texts sig sig') (hdelivery : L.Deliveries delivery delivery') :
      Events (.sent message sig delivery) (.sent message sig' delivery')

/-- Banks that cannot tell signatures apart and give replies that look alike. -/
structure Banks (bank bank' : Bank) : Prop where
  encode : ∀ events events' request, List.Forall₂ L.Events events events' →
    bank.encode events request = bank'.encode events' request
  send : ∀ events events' message sig sig', List.Forall₂ L.Events events events' →
    L.texts sig sig' → L.Deliveries (bank.send events message sig) (bank'.send events' message sig')

/-- Connections with sessions and events that look alike. -/
structure Connections (n n' : Connection) : Prop where
  session : L.Sessions n.session n'.session
  events : List.Forall₂ L.Events n.events n'.events
  clock_eq : n.clock = n'.clock

/-- Users and banks whose answers look alike. -/
structure BothSides (parties parties' : Parties) : Prop where
  application : L.Applications parties.application parties'.application
  bank : L.Banks parties.bank parties'.bank
  timeout_eq : parties.timeout = parties'.timeout

/-- Outcomes that look alike. -/
inductive Outcomes : Outcome → Outcome → Prop
  | opened {o o' : Except RunError Context} (h : OrFail L.Contexts o o') :
      Outcomes (.opened o) (.opened o')
  | sent {o o' : Except RunError (MessageQueue × List ReplyStatus)}
      (h : OrFail (Both Eq (List.Forall₂ L.Statuses)) o o') : Outcomes (.sent o) (.sent o')

/-! ### Alike for an observer -/

section

variable {L} {see : PropertySet → PropertySet}

/-- The observer sees of each reply what the function makes of it. -/
theorem deliveries_iff (see : PropertySet → PropertySet)
    (hsee : ∀ d d', L.replies d d' ↔ see d = see d') {delivery delivery' : Delivery} :
    L.Deliveries delivery delivery' ↔ delivery.mapData see = delivery'.mapData see := by
  constructor
  · intro h
    cases h with
    | replied h => exact congrArg Delivery.replied ((hsee _ _).mp h)
    | failed e => rfl
    | stalled => rfl
  · intro h
    cases delivery with
    | replied d =>
      cases delivery' with
      | replied d' => exact .replied ((hsee d d').mpr (Delivery.replied.inj h))
      | failed e => cases h
      | stalled => cases h
    | failed e =>
      cases delivery' <;> cases h
      exact .failed e
    | stalled =>
      cases delivery' <;> cases h
      exact .stalled

/-- What is the same of the members of two lists is the same of the lists. -/
theorem map_eq_of_forall₂ {α β γ : Type} {R : α → β → Prop} {g : α → γ} {g' : β → γ} {l : List α}
    {l' : List β} (h : List.Forall₂ R l l') (hg : ∀ {a b}, R a b → g a = g' b) :
    l.map g = l'.map g' := by
  rw [← List.forall₂_eq_eq_eq, List.forall₂_map_left_iff, List.forall₂_map_right_iff]
  exact h.imp fun _ _ => hg

variable (hsee : ∀ {d d'}, L.replies d d' → see d = see d')

include hsee

theorem Statuses.mapData_eq {x x' : ReplyStatus} (h : L.Statuses x x') :
    x.mapData see = x'.mapData see := by
  rw [ReplyStatus.mapData, ReplyStatus.mapData, h.global_eq, h.segment_eq, hsee h.data]

theorem Contexts.mapData_eq {c c' : Context} (h : L.Contexts c c') :
    c.mapData see = c'.mapData see := by
  obtain ⟨hstatus⟩ := h
  rw [Context.mapData, Context.mapData]
  dsimp only
  generalize c.status = before at hstatus
  cases hstatus with
  | none => rfl
  | some h => rw [Option.map_some, Option.map_some, h.mapData_eq hsee]

/-- Outcomes that look alike are equal as the observer sees them. -/
theorem Outcomes.mapData_eq {o o' : Outcome} (h : L.Outcomes o o') :
    o.mapData see = o'.mapData see := by
  cases h with
  | opened h => exact congrArg Outcome.opened (h.map_eq fun hc => hc.mapData_eq hsee)
  | sent h =>
    refine congrArg Outcome.sent (h.map_eq fun {r r'} hr => Prod.ext hr.fst ?_)
    exact map_eq_of_forall₂ hr.snd fun hx => hx.mapData_eq hsee

end

end Likeness

namespace Dialog

open Likeness

variable {L : Likeness} {parties parties' : Parties}

/-! ### Elementary steps -/

theorem agree_get : Agree L.Connections (OrFail L.Connections) (get : Run Connection).run
    (get : Run Connection).run := fun _ _ hn => ⟨.ok hn, hn⟩

theorem agree_record {e e' : BankEvent} (he : L.Events e e') :
    Agree L.Connections (OrFail Eq) (record e).run (record e').run :=
  fun _ _ hn => ⟨.ok rfl, hn.session, .cons he hn.events, hn.clock_eq⟩

theorem agree_liftEffect {α α' : Type} {A : α → α' → Prop} {x : Effect α} {x' : Effect α'}
    (hx : Agree L.Sessions A x x') :
    Agree L.Connections (OrFail A) (liftEffect x).run (liftEffect x').run := by
  intro n n' hn
  obtain ⟨ha, hs⟩ := hx n.session n'.session hn.session
  exact ⟨.ok ha, hs, hn.events, hn.clock_eq⟩

theorem agree_liftAction {α α' : Type} {A : α → α' → Prop} {x : Action α} {x' : Action α'}
    (hx : Agree L.Sessions (OrFail A) x.run x'.run) :
    Agree L.Connections (OrFail A) (liftAction x).run (liftAction x').run := by
  refine .bind_run (agree_liftEffect hx) fun o o' ho => ?_
  cases ho with
  | ok h => exact .ok h
  | error e => exact .throw _

section

variable (h : L.BothSides parties parties')

include h

theorem agree_fire (e : Event) {c c' : Context} (hc : L.Contexts c c') :
    Agree L.Connections (OrFail L.Contexts) (fire parties e c).run (fire parties' e c').run := by
  refine .bind_run (agree_liftEffect (Passport.agree_handle h.application e hc)) fun r r' hr => ?_
  obtain ⟨o, c⟩ := r
  obtain ⟨o', c'⟩ := r'
  obtain ⟨ho, hc⟩ := hr
  obtain rfl : o = o' := ho
  cases o with
  | ok _ => exact .ok hc
  | error e => exact .throw _

/-! ### A single exchange -/

theorem agree_encode (request : Request) :
    Agree L.Connections (OrFail Eq) (encode parties request).run (encode parties' request).run := by
  refine .bind_run agree_get fun n n' hn => ?_
  rw [h.bank.encode _ _ request hn.events]
  refine .bind_run_eq (agree_record (.encoded _ _)) fun _ => ?_
  cases parties'.bank.encode n'.events request with
  | ok message => exact .ok rfl
  | error e => exact .throw _

theorem agree_send (message : List UInt8) {sig sig' : String} (hsig : L.texts sig sig') :
    Agree L.Connections (OrFail L.replies) (send parties message sig).run
      (send parties' message sig').run := by
  refine .bind_run agree_get fun n n' hn => ?_
  have hdelivery := h.bank.send _ _ message _ _ hn.events hsig
  refine .bind_run_eq (agree_record (.sent message hsig hdelivery)) fun _ => ?_
  generalize parties.bank.send n.events message sig = delivery at hdelivery
  generalize parties'.bank.send n'.events message sig' = delivery' at hdelivery
  cases hdelivery with
  | replied hreplies => exact .ok hreplies
  | failed e => exact .throw _
  | stalled =>
    -- both sides wait for the same time
    refine .bind_run_eq (fun n n' hn => ?_) fun _ => .throw _
    refine ⟨.ok rfl, hn.session, hn.events, ?_⟩
    exact congrArg₂ (· + ·) hn.clock_eq h.timeout_eq

theorem agree_signature (anonymous : Bool) (message : List UInt8) :
    Agree L.Connections (OrFail L.texts) (signature parties anonymous message).run
      (signature parties' anonymous message).run := by
  refine .bind_run agree_get fun n n' hn => ?_
  rw [hn.session.passport.anonymous_eq]
  split
  · exact .ok L.texts_empty
  · exact agree_liftAction (Passport.agree_sign h.application message)

theorem agree_exchange (request : Request) (anonymous : Bool) :
    Agree L.Connections (OrFail L.Statuses) (exchange parties request anonymous).run
      (exchange parties' request anonymous).run := by
  refine .bind_run_eq (agree_encode h request) fun message => ?_
  refine .bind_run (agree_signature h anonymous message) fun sig sig' hsig => ?_
  refine .bind_run (agree_send h message hsig) fun d d' hd => ?_
  exact .ok (statuses_ofData hd)

/-! ### Opening a dialog -/

theorem agree_attempt (template : Template) {c c' : Context} (hc : L.Contexts c c') :
    Agree L.Connections (OrFail L.Contexts) (attempt parties template c).run
      (attempt parties' template c').run := by
  have hcleared : L.Contexts c.clearFields c'.clearFields := by
    obtain ⟨hstatus⟩ := hc
    exact ⟨hstatus⟩
  refine .bind_run (agree_fire h .messageCreated hcleared) fun made made' hmade => ?_
  obtain @⟨status, -⟩ := hmade
  -- the opening is made from the fields of the context, and not from the last reply
  have hrequest : openingRequest template { made with status } = openingRequest template made := rfl
  rw [hrequest]
  refine .bind_run (agree_exchange h _ _) fun status status' hstatus => ?_
  exact agree_fire h .messageSent ⟨.some hstatus⟩

theorem agree_negotiate (template : Template) (maxRestarts left : Nat) {c c' : Context}
    (hc : L.Contexts c c') :
    Agree L.Connections (OrFail L.Contexts) (negotiate parties template maxRestarts left c).run
      (negotiate parties' template maxRestarts left c').run := by
  induction left generalizing c c' with
  | zero =>
    rw [negotiate, negotiate]
    refine .bind_run (agree_attempt h template hc) fun c _ hc => ?_
    obtain ⟨hstatus⟩ := hc
    dsimp only [Context.takeAgain]
    split
    · exact .ok ⟨hstatus⟩
    · exact .throw _
  | succ left ih =>
    rw [negotiate, negotiate]
    refine .bind_run (agree_attempt h template hc) fun c _ hc => ?_
    obtain ⟨hstatus⟩ := hc
    dsimp only [Context.takeAgain]
    split
    · exact .ok ⟨hstatus⟩
    · exact ih ⟨hstatus⟩

theorem agree_start (template : Template) (queue : Option MessageQueue) :
    Agree L.Connections (OrFail L.Contexts) (start parties template queue).run
      (start parties' template queue).run := by
  refine .bind_run agree_get fun n n' hn => ?_
  -- the number of repetitions comes from the settings of the passports
  rw [hn.session.passport.config_eq]
  exact agree_negotiate h template _ _ ⟨.none⟩

/-! ### Sending tasks -/

omit h in
theorem agree_distribute (response : PropertySet) (ids : List TaskId) (q : MessageQueue) :
    Agree L.Connections (OrFail Eq) (distribute response ids q).run
      (distribute response ids q).run := by
  induction ids generalizing q with
  | nil => exact .ok rfl
  | cons id ids ih =>
    refine .bind_run_eq (agree_liftEffect (agree_modifyPassport fun p _ ⟨hpin⟩ => ?_))
      fun _ => ih _
    exact ⟨hpin⟩

omit h in
theorem agree_takeReply {status status' : ReplyStatus} (hstatus : L.Statuses status status')
    (tasks : List (TaskId × Task)) (q : MessageQueue) :
    Agree L.Connections (OrFail Eq) (takeReply status tasks q).run
      (takeReply status' tasks q).run := by
  rw [takeReply, takeReply, hstatus.find_responseQuery]
  split
  · exact .ok rfl
  · exact agree_distribute _ _ q

theorem agree_sendMessages (messages : List Message) (q : MessageQueue) {c c' : Context}
    (hc : L.Contexts c c') :
    Agree L.Connections (OrFail (Both Eq (List.Forall₂ L.Statuses)))
      (sendMessages parties messages q c).run (sendMessages parties' messages q c').run := by
  induction messages generalizing q c c' with
  | nil => exact .ok ⟨rfl, .nil⟩
  | cons message messages ih =>
    refine .bind_run (agree_exchange h _ false) fun status status' hstatus => ?_
    refine .bind_run_eq (agree_takeReply hstatus _ q) fun q => ?_
    obtain ⟨-⟩ := hc
    refine .bind_run (agree_fire h .messageSent ⟨.some hstatus⟩) fun c c' hc => ?_
    refine .bind_run (ih q hc) fun r r' hr => ?_
    exact .ok ⟨hr.fst, .cons hstatus hr.snd⟩

theorem agree_sendJobs (queue : MessageQueue) :
    Agree L.Connections (OrFail (Both Eq (List.Forall₂ L.Statuses))) (sendJobs parties queue).run
      (sendJobs parties' queue).run := by
  refine .bind_run (agree_fire h .jobsCreated ⟨.none⟩) fun c c' hc => ?_
  have hqueue : c'.queue = c.queue := by
    obtain ⟨-⟩ := hc
    rfl
  rw [hqueue]
  exact agree_sendMessages h _ _ hc

/-! ### Series of runs -/

/-- **Series.** A series of runs looks alike from connections that are alike. -/
theorem agree_runAll (commands : List Command) :
    Agree L.Connections (List.Forall₂ L.Outcomes) (runAll parties commands)
      (runAll parties' commands) := by
  have hcommand (command : Command) :
      Agree L.Connections L.Outcomes (command.run parties) (command.run parties') := by
    cases command with
    | start template queue =>
      exact .bind (agree_start h template queue) fun o o' ho => .pure (.opened ho)
    | sendJobs queue => exact .bind (agree_sendJobs h queue) fun o o' ho => .pure (.sent ho)
  induction commands with
  | nil => exact .pure .nil
  | cons command commands ih =>
    refine .bind (hcommand command) fun o o' ho => ?_
    exact .bind ih fun os os' hos => .pure (.cons ho hos)

end

end Dialog

end TanDialog
