import TanDialog.Dialog.Run
import TanDialog.Proofs.Operations

/-!
# The steps of an exchange

A step of a run works on a connection, and most of it happens in one of its parts: the passport acts
on the session, the bank is asked in view of the events. The lemmas tell how a step of either kind
changes the connection. `exec_exchange` is the exchange in full, `exec_exchange_ok` what is known
once a reply has come.
-/

namespace TanDialog.Dialog

variable {parties : Parties}

/-! ### Steps of the session -/

@[simp]
theorem exec_liftEffect {α : Type} (e : Effect α) (n : Connection) :
    exec (liftEffect e) n =
      (.ok (perform e n.session).1, { n with session := (perform e n.session).2 }) := rfl

/-- The outcome of an action of the session as that of a step of the run. -/
def inRun {α : Type} (n : Connection) : Except Error α × Session → Except RunError α × Connection
  | (.ok a, s) => (.ok a, { n with session := s })
  | (.error e, s) => (.error (.engine e), { n with session := s })

theorem inRun_eq_ok {α : Type} {n n' : Connection} {o : Except Error α × Session} {a : α} :
    inRun n o = (.ok a, n') ↔ ∃ s, o = (.ok a, s) ∧ n' = { n with session := s } := by
  constructor
  · intro h
    obtain ⟨_ | b, s⟩ := o
    · cases (Prod.mk.inj h).1
    · obtain ⟨hb, rfl⟩ := Prod.mk.inj h
      obtain rfl := Except.ok.inj hb
      exact ⟨s, rfl, rfl⟩
  · rintro ⟨s, rfl, rfl⟩
    rfl

theorem snd_inRun {α : Type} (n : Connection) (o : Except Error α × Session) :
    (inRun n o).2 = { n with session := o.2 } := by
  obtain ⟨_ | _, s⟩ := o <;> rfl

theorem exec_liftAction {α : Type} (a : Action α) (n : Connection) :
    exec (liftAction a) n = inRun n (exec a n.session) := by
  simp only [liftAction, exec_bind, exec_liftEffect, perform_run]
  rcases exec a n.session with ⟨_ | x, s⟩ <;> rfl

theorem exec_fire (e : Event) (c : Context) (n : Connection) :
    exec (fire parties e c) n =
      inRun n (match perform (Passport.handle parties.application e c) n.session with
        | ((.ok (), c'), s) => (.ok c', s)
        | ((.error err, _), s) => (.error err, s)) := by
  simp only [fire, exec_bind, exec_liftEffect]
  rcases perform (Passport.handle parties.application e c) n.session with ⟨⟨_ | _, c'⟩, s⟩ <;> rfl

/-- An event that the passport does not refuse changes only the session. -/
theorem exec_fire_ok {e : Event} {c c' : Context} {n n' : Connection} :
    exec (fire parties e c) n = (.ok c', n') ↔
      ∃ s, perform (Passport.handle parties.application e c) n.session = ((.ok (), c'), s) ∧
        n' = { n with session := s } := by
  rw [exec_fire, inRun_eq_ok]
  rcases perform (Passport.handle parties.application e c) n.session with ⟨⟨_ | _, c₁⟩, s₁⟩
  · simp
  · simp [Prod.ext_iff, and_assoc]

/-- An event has nothing to do with the bank. -/
theorem events_of_exec_fire_ok {e : Event} {c c' : Context} {n n' : Connection}
    (h : exec (fire parties e c) n = (.ok c', n')) : n'.events = n.events := by
  obtain ⟨s, -, rfl⟩ := exec_fire_ok.mp h
  rfl

/-! ### The bank -/

/-- The signature of a message in a session: none without credentials. -/
def signed (parties : Parties) (anonymous : Bool) (message : List UInt8) (s : Session) :
    Except Error String × Session :=
  if anonymous || s.passport.anonymous then (.ok "", s)
  else exec (Passport.sign parties.application message) s

theorem exec_signature (anonymous : Bool) (message : List UInt8) (n : Connection) :
    exec (signature parties anonymous message) n =
      inRun n (signed parties anonymous message n.session) := by
  have hget : exec (get : Run Connection) n = (.ok n, n) := rfl
  simp only [signature, exec_bind, hget, signed]
  split
  · rfl
  · exact exec_liftAction _ n

theorem exec_get (n : Connection) : exec (get : Run Connection) n = (.ok n, n) := rfl

theorem exec_record (e : BankEvent) (n : Connection) :
    exec (record e) n = (.ok (), { n with events := e :: n.events }) := rfl

/-- The attempt to encode a request is recorded, whatever comes of it. -/
theorem exec_encode (request : Request) (n : Connection) :
    exec (encode parties request) n =
      ((parties.bank.encode n.events request).mapError .transport,
        { n with
          events := .encoded request (parties.bank.encode n.events request) :: n.events }) := by
  simp only [encode, exec_bind, exec_get, exec_record]
  cases parties.bank.encode n.events request <;> rfl

theorem exec_encode_ok {request : Request} {message : List UInt8} {n n' : Connection} :
    exec (encode parties request) n = (.ok message, n') ↔
      parties.bank.encode n.events request = .ok message ∧
        n' = { n with events := .encoded request (.ok message) :: n.events } := by
  rw [exec_encode]
  cases parties.bank.encode n.events request with
  | error e =>
    constructor
    · intro h
      cases (Prod.mk.inj h).1
    · rintro ⟨h, -⟩
      cases h
  | ok m =>
    constructor
    · intro h
      obtain ⟨hm, rfl⟩ := Prod.mk.inj h
      obtain rfl := Except.ok.inj hm
      exact ⟨rfl, rfl⟩
    · rintro ⟨h, rfl⟩
      obtain rfl := Except.ok.inj h
      rfl

/-- What the run makes of a delivery. -/
def outcome : Delivery → Except RunError PropertySet
  | .replied data => .ok data
  | .failed e => .error (.transport e)
  | .stalled => .error .requestTimeout

/-- The seconds spent waiting in vain for a delivery. -/
def waited (parties : Parties) : Delivery → Nat
  | .stalled => parties.timeout
  | _ => 0

/-- The attempt to send a message is recorded, whatever comes of it. -/
theorem exec_send (message : List UInt8) (sig : String) (n : Connection) :
    exec (send parties message sig) n =
      (outcome (parties.bank.send n.events message sig),
        { n with
          events := .sent message sig (parties.bank.send n.events message sig) :: n.events
          clock := n.clock + waited parties (parties.bank.send n.events message sig) }) := by
  simp only [send, exec_bind, exec_get, exec_record]
  cases parties.bank.send n.events message sig <;> rfl

theorem exec_send_ok {message : List UInt8} {sig : String} {data : PropertySet}
    {n n' : Connection} :
    exec (send parties message sig) n = (.ok data, n') ↔
      parties.bank.send n.events message sig = .replied data ∧
        n' = { n with events := .sent message sig (.replied data) :: n.events } := by
  rw [exec_send]
  cases parties.bank.send n.events message sig with
  | failed e => simp [outcome]
  | stalled => simp [outcome]
  | replied d =>
    simp only [outcome, Prod.mk.injEq, Except.ok.injEq, Delivery.replied.injEq]
    refine and_congr_right fun h => ?_
    rw [h]
    exact eq_comm

/-! ### The exchange -/

/-- What comes of an exchange: the bank may fail to encode the request, the passport to sign the
message, and the bank to reply. -/
theorem exec_exchange (request : Request) (anonymous : Bool) (n : Connection) :
    exec (exchange parties request anonymous) n =
      match parties.bank.encode n.events request with
      | .error e =>
        (.error (.transport e), { n with events := .encoded request (.error e) :: n.events })
      | .ok message =>
        let events := .encoded request (.ok message) :: n.events
        match signed parties anonymous message n.session with
        | (.error e, session) => (.error (.engine e), { n with session, events })
        | (.ok sig, session) =>
          let delivery := parties.bank.send events message sig
          ((outcome delivery).map .ofData,
            { session
              events := .sent message sig delivery :: events
              clock := n.clock + waited parties delivery }) := by
  simp only [exchange, exec_bind, exec_encode]
  cases parties.bank.encode n.events request with
  | error e => rfl
  | ok message =>
    have hok : (Except.ok message : Except TransportError _).mapError RunError.transport =
        .ok message := rfl
    simp only [hok, exec_signature]
    rcases signed parties anonymous message n.session with ⟨e | sig, s⟩
    · rfl
    · simp only [inRun, exec_send]
      cases parties.bank.send (.encoded request (.ok message) :: n.events) message sig <;> rfl

/-- The connection after a signed message has been answered. -/
def afterReply (n : Connection) (s : Session) (request : Request) (message : List UInt8)
    (sig : String) (data : PropertySet) : Connection where
  session := s
  events := .sent message sig (.replied data) :: .encoded request (.ok message) :: n.events
  clock := n.clock

/-- An exchange that has come to a status went through encoding, signing and sending. -/
theorem exec_exchange_ok {request : Request} {anonymous : Bool} {status : ReplyStatus}
    {n n' : Connection} :
    exec (exchange parties request anonymous) n = (.ok status, n') ↔
      ∃ message sig s data,
        parties.bank.encode n.events request = .ok message ∧
        signed parties anonymous message n.session = (.ok sig, s) ∧
        parties.bank.send (.encoded request (.ok message) :: n.events) message sig =
          .replied data ∧
        status = .ofData data ∧ n' = afterReply n s request message sig data := by
  simp only [exchange, exec_bind_ok, exec_encode_ok, exec_signature, exec_send_ok, inRun_eq_ok,
    exec_pure]
  constructor
  · rintro ⟨message, _, ⟨hm, rfl⟩, sig, _, ⟨s, hs, rfl⟩, data, _, ⟨hd, rfl⟩, h⟩
    obtain ⟨hstatus, rfl⟩ := Prod.mk.inj h
    exact ⟨message, sig, s, data, hm, hs, hd, (Except.ok.inj hstatus).symm, rfl⟩
  · rintro ⟨message, sig, s, data, hm, hs, hd, rfl, rfl⟩
    exact ⟨message, _, ⟨hm, rfl⟩, sig, _, ⟨s, hs, rfl⟩, data, _, ⟨hd, rfl⟩, rfl⟩

/-- An exchange begins with the attempt to encode its request. -/
theorem exists_events_exchange (request : Request) (anonymous : Bool) (n : Connection) :
    ∃ sent, (exec (exchange parties request anonymous) n).2.events =
      sent ++ .encoded request (parties.bank.encode n.events request) :: n.events := by
  rw [exec_exchange]
  cases parties.bank.encode n.events request with
  | error e => exact ⟨[], rfl⟩
  | ok message =>
    dsimp only
    rcases signed parties anonymous message n.session with ⟨_ | sig, s⟩
    · exact ⟨[], rfl⟩
    · exact ⟨[_], rfl⟩

/-- A message that has been encoded and signed is sent, whatever becomes of it. -/
theorem exec_exchange_of_signed {request : Request} {anonymous : Bool} {message : List UInt8}
    {sig : String} {s : Session} {n : Connection}
    (hmessage : parties.bank.encode n.events request = .ok message)
    (hsigned : signed parties anonymous message n.session = (.ok sig, s)) :
    ∃ delivery,
      (exec (exchange parties request anonymous) n).2.events =
        .sent message sig delivery :: .encoded request (.ok message) :: n.events ∧
      (exec (exchange parties request anonymous) n).2.session = s := by
  have hencode := exec_encode_ok.mpr ⟨hmessage, rfl⟩
  simp only [exchange, exec_bind, hencode, exec_signature, hsigned, inRun, exec_send]
  cases parties.bank.send (.encoded request (.ok message) :: n.events) message sig with
  | replied data => exact ⟨.replied data, rfl, rfl⟩
  | failed e => exact ⟨.failed e, rfl, rfl⟩
  | stalled => exact ⟨.stalled, rfl, rfl⟩

/-! ### A simple bank -/

/-- A user who gives one answer to everything, and a bank that gives one reply to every message. -/
def steadyParties (answer : String) (reply : PropertySet) : Parties where
  application := Passport.steadyApplication answer
  bank :=
    { encode := fun _ _ => .ok []
      send := fun _ _ _ => .replied reply }

end TanDialog.Dialog
