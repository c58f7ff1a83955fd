import TanDialog.Proofs.Dialog.Jobs
import TanDialog.Proofs.Dialog.Restarts
import TanDialog.Proofs.RefusedPin

/-!
# Series of runs

A connection is used for one run after the other (`runAll`), each of which opens a dialog or sends a
queue, and goes on whether or not the one before has failed. `rounds` lists the exchanges of such a
series. A `Trace` tells what happens to the session between them and after each of them; its events
are those of its exchanges (`Trace.events_eq`), and `Governs` says which relations all runs keep to
(`Governs.trace_commandRounds`, `Governs.trace_runAll`). In particular only the session evolves
between exchanges, and when the bank has refused the PIN, the passport forgets it before anything
else (`course_runAll`).
-/

namespace TanDialog

/-- What a connection is used for. -/
inductive Command
  | start (template : Template) (queue : Option MessageQueue)
  | sendJobs (queue : MessageQueue)

/-- What comes of a command. -/
inductive Outcome
  | opened (result : Except RunError Context)
  | sent (result : Except RunError (MessageQueue × List ReplyStatus))

/-- Carries out a command. -/
def Command.run (parties : Parties) : Command → StateM Connection Outcome
  | .start template queue => return .opened (← (Dialog.start parties template queue).run)
  | .sendJobs queue => return .sent (← (Dialog.sendJobs parties queue).run)

namespace Dialog

/-- Carries out commands, one after the other. -/
def runAll (parties : Parties) : List Command → StateM Connection (List Outcome)
  | [] => return []
  | command :: commands => return (← command.run parties) :: (← runAll parties commands)

theorem perform_run_start (parties : Parties) (template : Template) (queue : Option MessageQueue)
    (n : Connection) :
    perform ((Command.start template queue).run parties) n =
      (.opened (exec (start parties template queue) n).1,
        (exec (start parties template queue) n).2) := rfl

theorem perform_run_sendJobs (parties : Parties) (queue : MessageQueue) (n : Connection) :
    perform ((Command.sendJobs queue).run parties) n =
      (.sent (exec (sendJobs parties queue) n).1, (exec (sendJobs parties queue) n).2) := rfl

variable {parties : Parties} {template : Template} {n n' : Connection}

/-! ### Exchanges -/

/-- An exchange that is due on a connection. -/
structure Round where
  request : Request
  /-- Whether the dialog was opened by the anonymous template. -/
  anonymous : Bool
  before : Connection

namespace Round

/-- What comes of the exchange. -/
def result (parties : Parties) (x : Round) : Except RunError ReplyStatus × Connection :=
  exec (exchange parties x.request x.anonymous) x.before

/-- The connection after the exchange. -/
def after (parties : Parties) (x : Round) : Connection := (x.result parties).2

/-- What happens with the bank in the exchange, the newest first. -/
def events (parties : Parties) (x : Round) : List BankEvent :=
  match parties.bank.encode x.before.events x.request with
  | .error e => [.encoded x.request (.error e)]
  | .ok message =>
    let encoded := .encoded x.request (.ok message)
    match (signed parties x.anonymous message x.before.session).1 with
    | .error _ => [encoded]
    | .ok sig =>
      [.sent message sig (parties.bank.send (encoded :: x.before.events) message sig), encoded]

theorem events_after (x : Round) :
    (x.after parties).events = x.events parties ++ x.before.events := by
  rw [after, result, exec_exchange, events]
  cases parties.bank.encode x.before.events x.request with
  | error e => rfl
  | ok message =>
    dsimp only
    rcases signed parties x.anonymous message x.before.session with ⟨_ | sig, s⟩ <;> rfl

/-- A message that is sent in the exchange has been signed in the session before it. -/
theorem signed_of_mem_events {x : Round} {message : List UInt8} {sig : String}
    {delivery : Delivery} (h : .sent message sig delivery ∈ x.events parties) :
    signed parties x.anonymous message x.before.session = (.ok sig, (x.after parties).session) := by
  rw [after, result, exec_exchange]
  rw [events] at h
  cases hencode : parties.bank.encode x.before.events x.request with
  | error e =>
    simp [hencode] at h
  | ok encoded =>
    simp only [hencode] at h
    dsimp only
    rcases hsigned : signed parties x.anonymous encoded x.before.session with ⟨e | signature, s⟩
    · simp [hsigned] at h
    · simp only [hsigned, List.mem_cons, BankEvent.sent.injEq, reduceCtorEq, List.not_mem_nil,
        or_false] at h
      obtain ⟨rfl, rfl, -⟩ := h
      exact hsigned

/-- All that happens to the session in an exchange is that a message may be signed. -/
theorem within_after {R : Session → Session → Prop} (hrefl : ∀ s, R s s)
    (hsign : ∀ message, Within R (Passport.sign parties.application message).run) (x : Round) :
    R x.before.session (x.after parties).session := by
  have hsigned (message : List UInt8) :
      R x.before.session (signed parties x.anonymous message x.before.session).2 := by
    rw [signed]
    split
    · exact hrefl _
    · exact hsign message x.before.session
  rw [after, result, exec_exchange]
  cases parties.bank.encode x.before.events x.request with
  | error e => exact hrefl _
  | ok message =>
    have hsigned := hsigned message
    dsimp only
    generalize signed parties x.anonymous message x.before.session = o at hsigned
    obtain ⟨_ | sig, s⟩ := o <;> exact hsigned

/-- The session evolves with an exchange. -/
theorem evolves_after (x : Round) :
    x.before.session.Evolves parties.application (x.after parties).session :=
  within_after (fun _ => .refl) (Passport.evolving_sign parties.application) x

end Round

/-- The exchange of an opening, unless the passport refuses to prepare it. -/
def openingRound? (parties : Parties) (template : Template) (c : Context) (n : Connection) :
    Option Round :=
  match exec (fire parties .messageCreated c.clearFields) n with
  | (.ok made, before) =>
    some
      { request := openingRequest template made, anonymous := template == .startAnonymous, before }
  | (.error _, _) => none

/-- The exchanges of a run that opens a dialog, with a number of repetitions left. -/
def openingRounds (parties : Parties) (template : Template) :
    Nat → Context → Connection → List Round
  | 0, c, n => (openingRound? parties template c n).toList
  | left + 1, c, n =>
    (openingRound? parties template c n).toList ++
      match exec (attempt parties template c) n with
      | (.ok c, n) =>
        if c.again then openingRounds parties template left { c with again := false } n else []
      | (.error _, _) => []

/-- Sends one message of a queue and takes in the reply. -/
def deliver (parties : Parties) (message : Message) (q : MessageQueue) (c : Context) :
    Run (ReplyStatus × MessageQueue × Context) := do
  let tasks := q.tasksOf message
  let status ← exchange parties (.tasks (tasks.map Prod.snd)) false
  let q ← takeReply status tasks q
  let c ← fire parties .messageSent { c with queue := some q, status := some status }
  return (status, q, c)

/-- Messages are delivered one by one. -/
theorem sendMessages_cons (message : Message) (messages : List Message) (q : MessageQueue)
    (c : Context) :
    sendMessages parties (message :: messages) q c = do
      let (status, q, c) ← deliver parties message q c
      let (q, replies) ← sendMessages parties messages q c
      return (q, status :: replies) := by
  simp only [sendMessages, deliver, bind_assoc, pure_bind]

/-- The exchange for one message of a queue. -/
def sendingRound (message : Message) (q : MessageQueue) (n : Connection) : Round where
  request := .tasks ((q.tasksOf message).map Prod.snd)
  anonymous := false
  before := n

/-- The exchanges for messages of a queue. -/
def sendingRounds (parties : Parties) :
    List Message → MessageQueue → Context → Connection → List Round
  | [], _, _, _ => []
  | message :: messages, q, c, n =>
    sendingRound message q n ::
      match exec (deliver parties message q c) n with
      | (.ok (_, q, c), n) => sendingRounds parties messages q c n
      | (.error _, _) => []

/-- The exchanges of a command. -/
def commandRounds (parties : Parties) (n : Connection) : Command → List Round
  | .start template queue =>
    openingRounds parties template n.session.passport.config.maxRestarts
      { Context.ofTemplate template with queue } n
  | .sendJobs queue =>
    match exec (fire parties .jobsCreated (.ofQueue queue)) n with
    | (.ok c, n) =>
      let q := c.queue.getD {}
      sendingRounds parties q.messages q c n
    | (.error _, _) => []

/-- The exchanges of a series of commands. -/
def rounds (parties : Parties) : List Command → Connection → List Round
  | [], _ => []
  | command :: commands, n =>
    commandRounds parties n command ++ rounds parties commands (perform (command.run parties) n).2

/-! ### Traces of a run -/

/-- A connection comes from another one by exchanges. Before an exchange the session changes as
`between` allows, and after it, to begin with, as `settles` says. -/
inductive Trace (parties : Parties) (between : Session → Session → Prop)
    (settles : Round → Session → Prop) : Connection → List Round → Connection → Prop
  | done (n : Connection) : Trace parties between settles n [] n
  | evolve {n n' : Connection} {s : Session} {xs : List Round} (h : between n.session s)
      (rest : Trace parties between settles { n with session := s } xs n') :
      Trace parties between settles n xs n'
  | exchange {x : Round} {xs : List Round} {s : Session} {n' : Connection} (h : settles x s)
      (rest : Trace parties between settles { x.after parties with session := s } xs n') :
      Trace parties between settles x.before (x :: xs) n'

/-- Relations that openings and deliveries keep to: `between` allows what the passport does before
an opening is encoded, and `settles` what it does about a reply, whose response may have been stored
already. -/
structure Steers (parties : Parties) (between : Session → Session → Prop)
    (settles : Round → Session → Prop) : Prop where
  messageCreated (c : Context) :
    Within between (Passport.handle parties.application .messageCreated c)
  failed {x : Round} {e : RunError} (h : (x.result parties).1 = .error e) :
    settles x (x.after parties).session
  replied {x : Round} {status : ReplyStatus} {c : Context} (ids : List TaskId)
    (h : (x.result parties).1 = .ok status) (hanon : c.anonymous = x.anonymous)
    (hstatus : c.status = some status) :
    settles x (exec (Passport.react parties.application c)
      ((x.after parties).session.storing (status.data.find Passport.responseQuery) ids)).2

/-- Relations that all runs keep to: `between` also allows what the passport does about queued
tasks. -/
structure Governs (parties : Parties) (between : Session → Session → Prop)
    (settles : Round → Session → Prop) : Prop extends Steers parties between settles where
  jobsCreated (c : Context) : Within between (Passport.handle parties.application .jobsCreated c)

section

variable {between : Session → Session → Prop} {settles : Round → Session → Prop}
  {n'' : Connection} {xs ys : List Round}

namespace Trace

theorem append (h : Trace parties between settles n xs n')
    (h' : Trace parties between settles n' ys n'') :
    Trace parties between settles n (xs ++ ys) n'' := by
  induction h with
  | done _ => exact h'
  | evolve hbetween _ ih => exact .evolve hbetween (ih h')
  | exchange hsettles _ ih => exact .exchange hsettles (ih h')

/-- If every exchange adds to a list and nothing else does, then a trace adds what its exchanges
add. -/
theorem observed_eq {β : Type} (list : Connection → List β) (added : Round → List β)
    (hbetween : ∀ n s, between n.session s → list { n with session := s } = list n)
    (hsettles : ∀ x s, settles x s →
      list { x.after parties with session := s } = added x ++ list x.before)
    (h : Trace parties between settles n xs n') :
    list n' = xs.reverse.flatMap added ++ list n := by
  induction h with
  | done _ => rfl
  | evolve hs _ ih => rw [ih, hbetween _ _ hs]
  | exchange hs _ ih =>
    rw [ih, hsettles _ _ hs, List.reverse_cons, List.flatMap_append, List.flatMap_singleton,
      List.append_assoc]

/-- The events of a trace are those of its exchanges. -/
theorem events_eq (h : Trace parties between settles n xs n') :
    n'.events = xs.reverse.flatMap (Round.events parties) ++ n.events :=
  observed_eq Connection.events (Round.events parties) (fun _ _ _ => rfl)
    (fun x _ _ => x.events_after) h

end Trace

/-- With an event, nothing but the session changes. -/
theorem snd_exec_fire (parties : Parties) (e : Event) (c : Context) (n : Connection) :
    (exec (fire parties e c) n).2 =
      { n with session := (perform (Passport.handle parties.application e c) n.session).2 } := by
  rw [exec_fire, snd_inRun]
  rcases perform (Passport.handle parties.application e c) n.session with ⟨⟨_ | _, c'⟩, s⟩ <;> rfl

/-- After a reply nothing but the session changes, in the reaction of the passport. -/
theorem snd_exec_fire_messageSent (c : Context) (n : Connection) :
    (exec (fire parties .messageSent c) n).2 =
      { n with session := (exec (Passport.react parties.application c) n.session).2 } := by
  rw [exec_fire_messageSent, snd_inRun]

theorem anonymous_of_exec_deliver_ok {c c' : Context} {message : Message} {q q' : MessageQueue}
    {status : ReplyStatus} (h : exec (deliver parties message q c) n = (.ok (status, q', c'), n')) :
    c'.anonymous = c.anonymous := by
  simp only [deliver, exec_bind_ok] at h
  obtain ⟨status₁, n₁, -, q₁, n₂, -, c₁, n₃, hfire, h⟩ := h
  obtain ⟨-, -, rfl⟩ : status₁ = status ∧ q₁ = q' ∧ c₁ = c' := by
    have hresult := Except.ok.inj (Prod.mk.inj h).1
    exact ⟨congrArg (·.1) hresult, congrArg (·.2.1) hresult, congrArg (·.2.2) hresult⟩
  have hreacted := anonymous_of_exec_fire_messageSent hfire
  exact hreacted

namespace Steers

/-- The trace of an exchange with what is done about its reply. -/
theorem trace_exchange (h : Steers parties between settles) {α : Type} (x : Round)
    {f : ReplyStatus → Run α}
    (hf : ∀ status, (x.result parties).1 = .ok status →
      ∃ (c : Context) (ids : List TaskId), c.anonymous = x.anonymous ∧ c.status = some status ∧
        (exec (f status) (x.after parties)).2 =
          { x.after parties with
            session := (exec (Passport.react parties.application c)
              ((x.after parties).session.storing
                (status.data.find Passport.responseQuery) ids)).2 }) :
    Trace parties between settles x.before [x]
      (exec (exchange parties x.request x.anonymous >>= f) x.before).2 := by
  have hexec : exec (exchange parties x.request x.anonymous) x.before =
      ((x.result parties).1, x.after parties) := rfl
  rw [exec_bind, hexec]
  cases hresult : (x.result parties).1 with
  | error e => exact .exchange (h.failed hresult) (.done _)
  | ok status =>
    obtain ⟨c, ids, hanon, hstatus, hrest⟩ := hf status hresult
    dsimp only
    rw [hrest]
    exact .exchange (h.replied ids hresult hanon hstatus) (.done _)

theorem trace_openingRound? (h : Steers parties between settles) {c : Context}
    (hc : c.anonymous = (template == .startAnonymous)) (n : Connection) :
    Trace parties between settles n (openingRound? parties template c n).toList
      (exec (attempt parties template c) n).2 := by
  have hsession := snd_exec_fire parties .messageCreated c.clearFields n
  rw [openingRound?, attempt, exec_bind]
  rcases hmade : exec (fire parties .messageCreated c.clearFields) n with ⟨e | made, n₁⟩
  · rw [hmade] at hsession
    subst hsession
    exact .evolve (h.messageCreated c.clearFields n.session) (.done _)
  · rw [hmade] at hsession
    subst hsession
    have hanon : made.anonymous = (template == .startAnonymous) :=
      (anonymous_of_exec_fire_messageCreated hmade).trans hc
    refine .evolve (h.messageCreated c.clearFields n.session) ?_
    -- the dialog is anonymous if its template is, so that this is the exchange that takes place
    dsimp only
    rw [hanon]
    refine h.trace_exchange
      { request := openingRequest template made, anonymous := template == .startAnonymous,
        before := _ } fun status _ => ?_
    exact ⟨_, [], rfl, rfl, snd_exec_fire_messageSent _ _⟩

theorem trace_openingRounds (h : Steers parties between settles) (maxRestarts left : Nat)
    {c : Context} (hc : c.anonymous = (template == .startAnonymous)) (n : Connection) :
    Trace parties between settles n (openingRounds parties template left c n)
      (exec (negotiate parties template maxRestarts left c) n).2 := by
  induction left generalizing c n with
  | zero =>
    have hfirst := h.trace_openingRound? hc n
    rw [openingRounds, exec_negotiate]
    rcases hattempt : exec (attempt parties template c) n with ⟨e | c', n₁⟩
    · rwa [hattempt] at hfirst
    · rw [hattempt] at hfirst
      dsimp only
      split <;> exact hfirst
  | succ left ih =>
    have hfirst := h.trace_openingRound? hc n
    rw [openingRounds, exec_negotiate]
    rcases hattempt : exec (attempt parties template c) n with ⟨e | c', n₁⟩
    · rw [hattempt] at hfirst
      exact hfirst.append (.done _)
    · rw [hattempt] at hfirst
      have hc' : c'.anonymous = (template == .startAnonymous) :=
        (anonymous_of_exec_attempt_ok hattempt).trans hc
      -- the raised flag decides whether there are more exchanges
      dsimp only
      split
      · exact hfirst.append (ih (c := { c' with again := false }) hc' n₁)
      · exact hfirst.append (.done _)

theorem trace_sendingRound (h : Steers parties between settles) {c : Context}
    (hc : c.anonymous = false) (message : Message) (q : MessageQueue) (n : Connection) :
    Trace parties between settles n [sendingRound message q n]
      (exec (deliver parties message q c) n).2 := by
  refine h.trace_exchange (sendingRound message q n) fun status _ => ?_
  refine ⟨{ c with queue := some (settle q message status.data), status := some status },
    awaiting q message, hc, rfl, ?_⟩
  rw [exec_bind, exec_takeReply]
  dsimp only
  rw [exec_bind_pure, snd_exec_fire_messageSent]

theorem trace_sendingRounds (h : Steers parties between settles) (messages : List Message)
    (q : MessageQueue) {c : Context} (hc : c.anonymous = false) (n : Connection) :
    Trace parties between settles n (sendingRounds parties messages q c n)
      (exec (sendMessages parties messages q c) n).2 := by
  induction messages generalizing q c n with
  | nil => exact .done n
  | cons message messages ih =>
    have hfirst := h.trace_sendingRound hc message q n
    rw [sendingRounds, sendMessages_cons, exec_bind]
    rcases hdeliver : exec (deliver parties message q c) n with ⟨e | ⟨status, q', c'⟩, n₁⟩
    · rwa [hdeliver] at hfirst
    · rw [hdeliver] at hfirst
      have hc' : c'.anonymous = false := (anonymous_of_exec_deliver_ok hdeliver).trans hc
      dsimp only
      rw [exec_bind_pure]
      exact hfirst.append (ih q' hc' n₁)

/-- The trace of a run that opens a dialog. -/
theorem trace_start (h : Steers parties between settles) (template : Template)
    (queue : Option MessageQueue) (n : Connection) :
    Trace parties between settles n (commandRounds parties n (.start template queue))
      (perform ((Command.start template queue).run parties) n).2 := by
  have hfirst : Begins parties template queue n 0 { Context.ofTemplate template with queue } n :=
    .first
  rw [perform_run_start, hfirst.exec_start.2]
  exact h.trace_openingRounds _ _ rfl n

/-- The trace of a run that sends a queue, from when the passport has gone through the queue. -/
theorem trace_sendJobs (h : Steers parties between settles) (queue : MessageQueue)
    (n : Connection) :
    Trace parties between settles
      { n with
        session :=
          (perform (Passport.handle parties.application .jobsCreated (.ofQueue queue))
            n.session).2 }
      (commandRounds parties n (.sendJobs queue))
      (perform ((Command.sendJobs queue).run parties) n).2 := by
  have hsession := snd_exec_fire parties .jobsCreated (.ofQueue queue) n
  rw [perform_run_sendJobs, sendJobs, exec_bind, commandRounds, ← hsession]
  rcases hfire : exec (fire parties .jobsCreated (.ofQueue queue)) n with ⟨e | c, n₁⟩
  · exact .done _
  · have hc : c.anonymous = false := by
      obtain ⟨p, -, -, rfl, -⟩ := exec_fire_jobsCreated_ok hfire
      rfl
    exact h.trace_sendingRounds _ _ hc _

end Steers

namespace Governs

/-- **Traces of runs.** Every run goes through its exchanges as the relations say. -/
theorem trace_commandRounds (h : Governs parties between settles) (command : Command)
    (n : Connection) :
    Trace parties between settles n (commandRounds parties n command)
      (perform (command.run parties) n).2 := by
  cases command with
  | start template queue => exact h.trace_start template queue n
  | sendJobs queue =>
    exact .evolve (h.jobsCreated (.ofQueue queue) n.session) (h.trace_sendJobs queue n)

/-- A series of runs goes through its exchanges as the relations say. -/
theorem trace_runAll (h : Governs parties between settles) (commands : List Command)
    (n : Connection) :
    Trace parties between settles n (rounds parties commands n)
      (perform (runAll parties commands) n).2 := by
  induction commands generalizing n with
  | nil => exact .done n
  | cons command commands ih => exact (h.trace_commandRounds command n).append (ih _)

end Governs

end

/-! ### The course of a series -/

/-- The bank refuses the PIN in the reply of an exchange, in a dialog that was not opened by the
anonymous template. -/
def Round.RefusesPin (parties : Parties) (x : Round) : Prop :=
  x.anonymous = false ∧ ∃ status, (x.result parties).1 = .ok status ∧ status.RefusesPin

/-- An exchange leads to a session before anything else happens with the bank. -/
structure Round.Leads (parties : Parties) (x : Round) (s : Session) : Prop where
  evolves : (x.after parties).session.Evolves parties.application s
  /-- A refused PIN is forgotten on the way. -/
  forgets : x.RefusesPin parties → ∃ t, (x.after parties).session.Evolves parties.application t ∧
    t.passport.pin = none ∧ t.Evolves parties.application s

/-- A connection comes from another one by exchanges, between which only the session evolves. -/
def Course (parties : Parties) : Connection → List Round → Connection → Prop :=
  Trace parties (Session.Evolves parties.application) (Round.Leads parties)

theorem Course.evolves {xs : List Round} (h : Course parties n xs n') :
    n.session.Evolves parties.application n'.session := by
  induction h with
  | done n => exact .refl
  | evolve hbetween _ ih => exact hbetween.trans ih
  | @exchange x _ _ _ hleads _ ih => exact x.evolves_after.trans (hleads.evolves.trans ih)

/-- In all runs the session evolves, and a refused PIN is forgotten first. -/
theorem governs_course (parties : Parties) :
    Governs parties (Session.Evolves parties.application) (Round.Leads parties) where
  messageCreated c := Passport.evolving_handle parties.application .messageCreated c
  jobsCreated c := Passport.evolving_handle parties.application .jobsCreated c
  failed h := by
    refine ⟨.refl, fun ⟨_, status, hstatus, _⟩ => ?_⟩
    rw [h] at hstatus
    cases hstatus
  replied {x status c} ids h hanon hstatus := by
    have hstoring := (x.after parties).session.evolves_storing parties.application
      (status.data.find Passport.responseQuery) ids
    refine ⟨hstoring.trans (Passport.evolving_react parties.application c _), ?_⟩
    -- the exchange has one reply, the one that the passport reacts to
    rintro ⟨hx, status', hstatus', hrefuses⟩
    obtain rfl : status = status' := Except.ok.inj (h.symm.trans hstatus')
    obtain ⟨t, ht, hnone, hrest⟩ := Passport.evolves_react_of_refusesPin (hanon.trans hx) hstatus
      hrefuses ((x.after parties).session.storing (status.data.find Passport.responseQuery) ids)
    exact ⟨t, hstoring.trans ht, hnone, hrest⟩

/-- A series of runs goes through its exchanges, and between them only the session evolves. -/
theorem course_runAll (parties : Parties) (commands : List Command) (n : Connection) :
    Course parties n (rounds parties commands n) (perform (runAll parties commands) n).2 :=
  (governs_course parties).trace_runAll commands n

end Dialog

end TanDialog
