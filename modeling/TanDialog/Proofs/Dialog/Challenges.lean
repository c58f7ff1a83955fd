import TanDialog.Proofs.Challenge
import TanDialog.Proofs.Dialog.OpeningRequests
import TanDialog.Proofs.Dialog.SecondStepTan
import TanDialog.Proofs.Patch.LastMessage

/-!
# Challenges end with their run

A challenge that is stored waits for the next signature under a two-step method. Along the exchanges
of a run it is put to the user once at most (`PutOnce`): the exchange that asks for it leaves
nothing behind, and the next one has another challenge only if a reply has brought it.

A run that comes to a result leaves no challenge behind either (`challenges_end_with_run`), since
its last reply is not searched for one. A reply that is searched makes an opening go on with its
second step, and the last message of a queue awaits no challenge.
-/

namespace TanDialog

/-- The text that is stored after a response was there before, or is that of the response. -/
theorem Challenge.text_storeResponse {c : Challenge} {response : PropertySet} {text : String}
    (h : (c.storeResponse response).text = some text) :
    c.text = some text ∨ response.getNonEmpty? "challenge" = some text := by
  rw [storeResponse, store, update] at h
  split at h
  case h_1 hnew => exact .inr (hnew.trans h)
  case h_2 => exact .inl h

namespace Dialog

open Passport

variable {parties : Parties} {n n' : Connection} {x y : Round} {xs : List Round} {text : String}

/-! ### The challenge in an exchange -/

namespace Round

/-- The calls of the exchange that put a challenge to the user. -/
def asked (parties : Parties) (x : Round) : List Call :=
  (x.after parties).session.prompts.take
    ((x.after parties).session.prompts.length - x.before.session.prompts.length)

/-- In an exchange nothing happens to the challenge, or it is used up. -/
theorem quiet_or_uses (parties : Parties) (x : Round) :
    x.before.session.Quiet (x.after parties).session ∨
      x.before.session.Uses (x.after parties).session :=
  within_after (fun s => .inl (.refl s)) (sign_quiet_or_uses parties.application) x

theorem asked_of_prompts {calls : List Call}
    (h : (x.after parties).session.prompts = calls ++ x.before.session.prompts) :
    x.asked parties = calls := by
  rw [asked, h, List.length_append, Nat.add_sub_cancel, List.take_left]

theorem asked_of_quiet (h : x.before.session.Quiet (x.after parties).session) :
    x.asked parties = [] := asked_of_prompts h.prompts

theorem prompts_after (parties : Parties) (x : Round) :
    (x.after parties).session.prompts = x.asked parties ++ x.before.session.prompts := by
  rcases x.quiet_or_uses parties with h | h
  · rw [asked_of_quiet h, h.prompts, List.nil_append]
  · obtain ⟨method, hprompts⟩ := h.prompts
    rw [asked_of_prompts hprompts, hprompts]

/-- An exchange that asks puts the challenge that was there before it, and leaves none behind. -/
theorem asked_of_ne_nil (h : x.asked parties ≠ []) :
    ∃ method text, x.before.session.passport.challenge.text = some text ∧
      x.asked parties = [tanCall method text x.before.session.passport.challenge.payload] ∧
      (x.after parties).session.passport.challenge.text = none := by
  rcases x.quiet_or_uses parties with hquiet | huses
  · exact absurd (asked_of_quiet hquiet) h
  · obtain ⟨method, hprompts⟩ := huses.prompts
    rw [asked_of_prompts hprompts] at h ⊢
    cases htext : x.before.session.passport.challenge.text with
    | none => exact absurd (by rw [htext]; rfl) h
    | some text => exact ⟨method, text, rfl, rfl, congrArg Challenge.text huses.challenge⟩

/-- A challenge that is there after an exchange was there before, and has not been put. -/
theorem text_before_of_after (h : (x.after parties).session.passport.challenge.text = some text) :
    x.before.session.passport.challenge.text = some text ∧ x.asked parties = [] := by
  rcases x.quiet_or_uses parties with hquiet | huses
  · exact ⟨by rw [← hquiet.challenge, h], asked_of_quiet hquiet⟩
  · rw [huses.challenge] at h
    cases h

/-- A message that has been signed under a two-step method has used up the challenge. -/
theorem challenge_after {status : ReplyStatus} {id : String}
    (hresult : (x.result parties).1 = .ok status) (hanon : x.anonymous = false)
    (hsigns : SignsInSteps id (x.after parties).session) :
    (x.after parties).session.passport.challenge = x.before.session.passport.challenge.used := by
  have hexchange : exec (exchange parties x.request x.anonymous) x.before =
      (.ok status, x.after parties) := Prod.ext hresult rfl
  obtain ⟨message, sig, s, data, -, hsigned, -, -, hafter⟩ := exec_exchange_ok.mp hexchange
  have hs : (x.after parties).session = s := by
    rw [hafter]
    rfl
  rw [hs] at hsigns ⊢
  rw [signed, hanon, Bool.false_or] at hsigned
  split at hsigned
  case isTrue hcredentials =>
    -- a session without credentials would have none afterwards
    obtain rfl := (Prod.mk.inj hsigned).2
    rw [hsigns.credentials] at hcredentials
    cases hcredentials
  case isFalse => exact challenge_of_exec_sign_ok hsigned hsigns.current hsigns.twoStep

/-- The reply of an exchange brings the text of a challenge. -/
def Brings (parties : Parties) (x : Round) (text : String) : Prop :=
  ∃ status, (x.result parties).1 = .ok status ∧
    (status.data.find responseQuery).getNonEmpty? "challenge" = some text

/-- What becomes of an exchange until the next one: nothing is asked, and a challenge that is there
was there before or comes from the reply. -/
structure Settles (parties : Parties) (x : Round) (s : Session) : Prop where
  prompts : s.prompts = (x.after parties).session.prompts
  text : ∀ text, s.passport.challenge.text = some text →
    (x.after parties).session.passport.challenge.text = some text ∨ x.Brings parties text

end Round

theorem text_storing {s : Session} {response : PropertySet} {ids : List TaskId}
    (h : (s.storing response ids).passport.challenge.text = some text) :
    s.passport.challenge.text = some text ∨ response.getNonEmpty? "challenge" = some text := by
  rw [Session.storing] at h
  split at h
  · exact .inl h
  · exact Challenge.text_storeResponse h

theorem prompts_storing (s : Session) (response : PropertySet) (ids : List TaskId) :
    (s.storing response ids).prompts = s.prompts := by
  rw [Session.storing]
  split <;> rfl

/-- In all runs challenges are put in exchanges only, and come from replies only. -/
theorem governs_challenges (parties : Parties) :
    Governs parties Session.Quiet (Round.Settles parties) where
  messageCreated c := routine_quiet.messageCreated parties.application c
  jobsCreated c := routine_quiet.jobsCreated parties.application c
  failed _ := ⟨rfl, fun _ h => .inl h⟩
  replied {x status c} ids hresult _ hstatus := by
    obtain ⟨hprompts, hchallenge⟩ := react_takes parties.application c
      ((x.after parties).session.storing (status.data.find responseQuery) ids)
    refine ⟨hprompts.trans (prompts_storing _ _ _), fun text htext => ?_⟩
    have hbrings (h : (status.data.find responseQuery).getNonEmpty? "challenge" = some text) :
        x.Brings parties text := ⟨status, hresult, h⟩
    rcases hchallenge with hsame | ⟨-, status', hstatus', hstored⟩
    · rw [hsame] at htext
      exact (text_storing htext).imp_right hbrings
    · -- the response of the reply is stored, for the second time perhaps
      obtain rfl := Option.some.inj (hstatus.symm.trans hstatus')
      rw [hstored] at htext
      rcases Challenge.text_storeResponse htext with hbefore | hnew
      · exact (text_storing hbefore).imp_right hbrings
      · exact .inr (hbrings hnew)

/-! ### The challenges of a run -/

/-- A text is stored right before the exchange with an index: it is there from the beginning, or it
comes with the reply of the exchange before. -/
def Arrives (parties : Parties) (n : Connection) (xs : List Round) (text : String) : Nat → Prop
  | 0 => n.session.passport.challenge.text = some text
  | m + 1 => ∃ y, xs[m]? = some y ∧ y.Brings parties text

/-- A text has arrived right before the exchange with index `m`. From then on it is there, and no
exchange asks, until the turn of the exchange with index `k` comes. -/
structure Waits (parties : Parties) (n : Connection) (xs : List Round) (text : String)
    (m k : Nat) : Prop where
  arrives : Arrives parties n xs text m
  le : m ≤ k
  held : ∀ i y, m ≤ i → i ≤ k → xs[i]? = some y →
    y.before.session.passport.challenge.text = some text
  unasked : ∀ i y, m ≤ i → i < k → xs[i]? = some y → y.asked parties = []

namespace Waits

variable {m k : Nat}

/-- A text that arrives right before an exchange has not waited yet. -/
theorem of_arrives (hx : xs[k]? = some x)
    (htext : x.before.session.passport.challenge.text = some text)
    (harrives : Arrives parties n xs text k) : Waits parties n xs text k k where
  arrives := harrives
  le := Nat.le_refl k
  held i y hle hle' hy := by
    obtain rfl := Nat.le_antisymm hle hle'
    obtain rfl := Option.some.inj (hx.symm.trans hy)
    exact htext
  unasked i y hle hlt := absurd hlt (Nat.not_lt.mpr hle)

/-- A text that an exchange does not put waits for the next one. -/
theorem succ (h : Waits parties n xs text m k) (hx : xs[k]? = some x)
    (hasked : x.asked parties = []) (hy : xs[k + 1]? = some y)
    (htext : y.before.session.passport.challenge.text = some text) :
    Waits parties n xs text m (k + 1) where
  arrives := h.arrives
  le := Nat.le_succ_of_le h.le
  held i z hle hle' hz := by
    rcases Nat.eq_or_lt_of_le hle' with rfl | hlt
    · obtain rfl := Option.some.inj (hy.symm.trans hz)
      exact htext
    · exact h.held i z hle (Nat.le_of_lt_succ hlt) hz
  unasked i z hle hlt hz := by
    rcases Nat.eq_or_lt_of_le (Nat.le_of_lt_succ hlt) with rfl | hlt
    · obtain rfl := Option.some.inj (hx.symm.trans hz)
      exact hasked
    · exact h.unasked i z hle hlt hz

end Waits

/-- A connection comes from another one by exchanges that put every challenge once at most. -/
structure PutOnce (parties : Parties) (n n' : Connection) (xs : List Round) : Prop where
  /-- The user is asked in exchanges only. -/
  prompts : n'.session.prompts = xs.reverse.flatMap (Round.asked parties) ++ n.session.prompts
  /-- An exchange that asks puts one challenge, which has been waiting for it, and leaves none. -/
  put : ∀ (k : Nat) (x : Round), xs[k]? = some x → x.asked parties ≠ [] →
    ∃ method text m, Waits parties n xs text m k ∧
      x.asked parties = [tanCall method text x.before.session.passport.challenge.payload] ∧
      (x.after parties).session.passport.challenge.text = none
  /-- What arrives before one exchange is put in one exchange. -/
  once : ∀ (m k k' : Nat) (x x' : Round) (text text' : String),
    Waits parties n xs text m k → Waits parties n xs text' m k' →
    xs[k]? = some x → x.asked parties ≠ [] → xs[k']? = some x' → x'.asked parties ≠ [] → k = k'

namespace Trace

/-- The prompts of a trace are those of its exchanges. -/
theorem prompts_eq (h : Trace parties Session.Quiet (Round.Settles parties) n xs n') :
    n'.session.prompts = xs.reverse.flatMap (Round.asked parties) ++ n.session.prompts :=
  observed_eq (fun n => n.session.prompts) (Round.asked parties)
    (fun _ _ hquiet => hquiet.prompts)
    (fun x _ hsettles => hsettles.prompts.trans (x.prompts_after parties)) h

/-- The first exchange finds the challenge that was there in the beginning. -/
theorem text_first (h : Trace parties Session.Quiet (Round.Settles parties) n xs n')
    (hx : xs[0]? = some x) :
    x.before.session.passport.challenge.text = n.session.passport.challenge.text := by
  induction h with
  | done _ => cases hx
  | evolve hquiet _ ih => rw [ih hx, hquiet.challenge]
  | exchange =>
    obtain rfl := Option.some.inj hx
    rfl

/-- Every other exchange finds what the exchange before has left or its reply has brought. -/
theorem text_next (h : Trace parties Session.Quiet (Round.Settles parties) n xs n') {k : Nat}
    (hx : xs[k]? = some x) (hy : xs[k + 1]? = some y)
    (htext : y.before.session.passport.challenge.text = some text) :
    (x.after parties).session.passport.challenge.text = some text ∨ x.Brings parties text := by
  induction h generalizing k with
  | done _ => cases hx
  | evolve _ _ ih => exact ih hx hy
  | exchange hsettles hrest ih =>
    cases k with
    | zero =>
      obtain rfl := Option.some.inj hx
      rw [hrest.text_first hy] at htext
      exact hsettles.text text htext
    | succ k => exact ih hx hy

/-- A challenge that an exchange finds has been waiting for it. -/
theorem exists_waits (h : Trace parties Session.Quiet (Round.Settles parties) n xs n') {k : Nat}
    (hx : xs[k]? = some x) (htext : x.before.session.passport.challenge.text = some text) :
    ∃ m, Waits parties n xs text m k := by
  induction k generalizing x with
  | zero => exact ⟨0, .of_arrives hx htext ((h.text_first hx).symm.trans htext)⟩
  | succ k ih =>
    have hlt := (List.getElem?_eq_some_iff.mp hx).1
    obtain ⟨y, hy⟩ : ∃ y, xs[k]? = some y :=
      ⟨_, List.getElem?_eq_getElem (Nat.lt_of_succ_lt hlt)⟩
    rcases h.text_next hy hx htext with hafter | hbrings
    · -- it was there before the last exchange, which has not put it
      obtain ⟨hbefore, hasked⟩ := Round.text_before_of_after hafter
      obtain ⟨m, hwaits⟩ := ih hy hbefore
      exact ⟨m, hwaits.succ hy hasked hx htext⟩
    · exact ⟨k + 1, .of_arrives hx htext ⟨y, hy, hbrings⟩⟩

/-- In a trace every challenge is put once at most. -/
theorem putOnce (h : Trace parties Session.Quiet (Round.Settles parties) n xs n') :
    PutOnce parties n n' xs where
  prompts := h.prompts_eq
  put k x hx hasked := by
    obtain ⟨method, text, htext, hput, hnone⟩ := Round.asked_of_ne_nil hasked
    obtain ⟨m, hwaits⟩ := h.exists_waits hx htext
    exact ⟨method, text, m, hwaits, hput, hnone⟩
  once m k k' x x' text text' hwaits hwaits' hx hasked hx' hasked' := by
    rcases Nat.lt_trichotomy k k' with hlt | heq | hlt
    · exact absurd (hwaits'.unasked k x hwaits.le hlt hx) hasked
    · exact heq
    · exact absurd (hwaits.unasked k' x' hwaits'.le hlt hx') hasked'

end Trace

/-! ### The last exchange -/

variable {message : Message} {messages : List Message} {q q' : MessageQueue} {c c' : Context}

/-- There is a last exchange, it has been answered, and nothing has happened to the challenge since
its message was signed. -/
def EndsWithSignature (parties : Parties) (xs : List Round) (n' : Connection) : Prop :=
  ∃ x status, xs.getLast? = some x ∧ (x.result parties).1 = .ok status ∧
    n'.session.passport.challenge = (x.after parties).session.passport.challenge

/-- A reaction without strong authentication leaves the challenge alone, and no strong
authentication begins with it. -/
theorem challenge_of_exec_react_ok {s s' : Session} (hauth : c.authenticates = false)
    (h : exec (react parties.application c) s = (.ok c', s')) :
    c'.authenticates = false ∧ s'.passport.challenge = s.passport.challenge := by
  rcases exec_react_ok_cases h with ⟨_, _, -, hresponse, -⟩ | ⟨step, again, rfl, hchallenge, -⟩
  · obtain ⟨hauth', -⟩ := awaitedResponse?_eq_some.mp hresponse
    rw [hauth] at hauth'
    cases hauth'
  · exact ⟨hauth, hchallenge⟩

/-- A message that awaits no challenge is delivered without taking one. -/
theorem challenge_of_exec_deliver_ok {status : ReplyStatus} (hauth : c.authenticates = false)
    (h : exec (deliver parties message q c) n = (.ok (status, q', c'), n')) :
    c'.authenticates = false ∧
      (∀ id, (q'.task? id).any awaitsChallenge = (q.task? id).any awaitsChallenge) ∧
      (awaiting q message = [] →
        ((sendingRound message q n).result parties).1 = .ok status ∧
        n'.session.passport.challenge =
          ((sendingRound message q n).after parties).session.passport.challenge) := by
  obtain ⟨reply, n₁, s, hresult, rfl, rfl, htake, hfire⟩ := exec_deliver_ok h
  rw [exec_fire_messageSent, inRun_eq_ok] at hfire
  obtain ⟨s', hreact, rfl⟩ := hfire
  obtain ⟨hauth', hchallenge⟩ := challenge_of_exec_react_ok
    (c := { c with queue := some (settle q message reply), status := some (.ofData reply) }) hauth
    hreact
  refine ⟨hauth', any_awaitsChallenge_settle q message reply, fun hawaiting => ?_⟩
  have hs : n₁.session = s := by
    have htake' := (Prod.mk.inj ((exec_takeReply _ message q n₁).symm.trans htake)).2
    rw [hawaiting] at htake'
    exact congrArg Connection.session htake'
  rw [Round.after, hresult, hchallenge, hs]
  exact ⟨rfl, rfl⟩

/-- The last delivery of a queue, if the last message awaits no challenge. -/
theorem endsWithSignature_of_exec_sendMessages_ok {replies : List ReplyStatus} {last : Message}
    (hauth : c.authenticates = false) (hlast : messages.getLast? = some last)
    (hawaits : ∀ id ∈ last, (q.task? id).any awaitsChallenge = false)
    (h : exec (sendMessages parties messages q c) n = (.ok (q', replies), n')) :
    EndsWithSignature parties (sendingRounds parties messages q c n) n' := by
  induction messages generalizing q c n replies with
  | nil => cases hlast
  | cons message messages ih =>
    rw [sendMessages_cons, exec_bind_ok] at h
    obtain ⟨⟨status, q₁, c₁⟩, n₁, hdeliver, h⟩ := h
    obtain ⟨⟨q₂, replies₂⟩, n₂, hrest, h⟩ := exec_bind_ok.mp h
    obtain ⟨hq, rfl⟩ := Prod.mk.inj h
    obtain ⟨rfl, rfl⟩ := Prod.mk.inj (Except.ok.inj hq)
    obtain ⟨hauth₁, hkeeps, hstays⟩ := challenge_of_exec_deliver_ok hauth hdeliver
    rw [sendingRounds, hdeliver]
    cases messages with
    | nil =>
      obtain rfl : message = last := Option.some.inj hlast
      obtain ⟨-, rfl⟩ := Prod.mk.inj hrest
      exact ⟨_, status, rfl, hstays (awaiting_eq_nil hawaits)⟩
    | cons next messages =>
      rw [List.getLast?_cons_cons] at hlast
      obtain ⟨x, status', hx, hresult, hchallenge⟩ :=
        ih hauth₁ hlast (fun id hid => (hkeeps id).trans (hawaits id hid)) hrest
      refine ⟨x, status', ?_, hresult, hchallenge⟩
      dsimp only
      rw [List.getLast?_cons, hx, Option.getD_some]

/-- The last exchange of an opening. If its reply had brought a challenge, the opening would have
gone on. -/
theorem endsWithSignature_of_exec_start_ok {template : Template} {queue : Option MessageQueue}
    (h : exec (start parties template queue) n = (.ok c', n')) :
    EndsWithSignature parties (commandRounds parties n (.start template queue)) n' := by
  cases exec_start_iff.mp h with
  | @opened k c c' n₁ n' hbegins hattempt hagain =>
    obtain ⟨made, n₂, status, n₃, hmade, hreply, hreact⟩ := exec_attempt_ok.mp hattempt
    let x : Round :=
      { request := openingRequest template made, anonymous := made.anonymous, before := n₂ }
    have hlast : (commandRounds parties n (.start template queue)).drop k = [x] := by
      rw [hbegins.drop_commandRounds]
      cases n.session.passport.config.maxRestarts - k <;>
        simp [openingRounds, hbegins.openingRound?_eq hmade, hattempt, hagain, x]
    refine ⟨x, status, ?_, congrArg Prod.fst hreply, ?_⟩
    · have hget :=
        List.getLast?_drop (l := commandRounds parties n (.start template queue)) (i := k)
      rw [hlast] at hget
      split at hget
      · cases hget
      · exact hget.symm
    · have hafter : x.after parties = n₃ := congrArg Prod.snd hreply
      rw [exec_fire_messageSent, inRun_eq_ok] at hreact
      obtain ⟨s, hreact, rfl⟩ := hreact
      rw [hafter]
      rcases exec_react_ok_cases hreact with ⟨_, _, -, -, -, -, rfl, -⟩ | ⟨_, _, -, hchallenge, -⟩
      · -- with a challenge the flag would be up
        cases hagain
      · exact hchallenge

/-- A command that is carried out with success. A queue has to have a message, and its messages name
only tasks of the queue, all of which are business tasks. -/
inductive Succeeds (parties : Parties) (n : Connection) : Command → Prop
  | start {template : Template} {queue : Option MessageQueue} {c : Context}
      (opened : (exec (start parties template queue) n).1 = .ok c) :
      Succeeds parties n (.start template queue)
  | sendJobs {q : MessageQueue} {result : MessageQueue × List ReplyStatus}
      (business : ∀ t ∈ q.tasks, t.kind = .business)
      (named : ∀ message ∈ q.messages, ∀ i ∈ message, i < q.tasks.length)
      (holdsMessage : q.messages ≠ [])
      (sent : (exec (sendJobs parties q) n).1 = .ok result) : Succeeds parties n (.sendJobs q)

theorem Succeeds.endsWithSignature {command : Command} (h : Succeeds parties n command) :
    EndsWithSignature parties (commandRounds parties n command)
      (perform (command.run parties) n).2 := by
  cases h with
  | @start template queue c opened => exact endsWithSignature_of_exec_start_ok (Prod.ext opened rfl)
  | @sendJobs q result business named holdsMessage sent =>
    have hsend : exec (Dialog.sendJobs parties q) n =
        (.ok (result.1, result.2), (exec (Dialog.sendJobs parties q) n).2) := Prod.ext sent rfl
    obtain ⟨c, _, hfire, hmessages⟩ := exec_bind_ok.mp hsend
    obtain ⟨p, s, hpatch, rfl, rfl⟩ := exec_fire_jobsCreated_ok hfire
    obtain ⟨last, hlast, hawaits⟩ := closes_of_patch business named holdsMessage hpatch
    rw [commandRounds_sendJobs hpatch]
    exact endsWithSignature_of_exec_sendMessages_ok rfl hlast hawaits hmessages

/-- **Challenges end with their run.** Whatever the replies bring, a run puts every challenge to the
user once at most. If it succeeds and its last message has been signed under a two-step method, with
credentials, then the passport has neither a challenge text nor an optical payload afterwards. -/
theorem challenges_end_with_run (parties : Parties) (command : Command) (n : Connection) :
    let xs := commandRounds parties n command
    let n' := (perform (command.run parties) n).2
    PutOnce parties n n' xs ∧
      (Succeeds parties n command → ∃ x, xs.getLast? = some x ∧
        ∀ id, x.anonymous = false → SignsInSteps id (x.after parties).session →
          n'.session.passport.challenge.text = none ∧
          n'.session.passport.challenge.payload = none) := by
  intro xs n'
  refine ⟨((governs_challenges parties).trace_commandRounds command n).putOnce, fun h => ?_⟩
  obtain ⟨x, status, hx, hresult, hchallenge⟩ := h.endsWithSignature
  refine ⟨x, hx, fun id hanon hsigns => ?_⟩
  rw [hchallenge, Round.challenge_after hresult hanon hsigns]
  exact ⟨rfl, rfl⟩

/-! ### A sample run -/

/-- All replies to two transfers bring a challenge. The one of the first reply is put to the user
with the second message, and none is left in the end. -/
theorem challenges_end_with_run_pair :
    (∃ m, Waits challengingParties pushConnection pairRounds "Code 4711" m 1) ∧
      let n' := (perform ((Command.sendJobs transferPair).run challengingParties) pushConnection).2
      n'.session.prompts.length = 1 ∧ n'.session.passport.challenge.text = none ∧
        n'.session.passport.challenge.payload = none := by
  obtain ⟨hputOnce, hend⟩ :=
    challenges_end_with_run challengingParties (.sendJobs transferPair) pushConnection
  have hsecond : pairRounds[1]?.any (fun x => !(x.asked challengingParties).isEmpty &&
      x.before.session.passport.challenge.text == some "Code 4711") := by
    decide +kernel
  have hlast : pairRounds.getLast?.any (fun x => !x.anonymous &&
      (x.after challengingParties).session.passport.current == some "921" &&
      !(x.after challengingParties).session.passport.anonymous) := by
    decide +kernel
  have hsent : (exec (sendJobs challengingParties transferPair) pushConnection).1.toOption.isSome :=
    by decide +kernel
  obtain ⟨result, hresult⟩ : ∃ result,
      (exec (sendJobs challengingParties transferPair) pushConnection).1 = .ok result := by
    rcases h : (exec (sendJobs challengingParties transferPair) pushConnection).1 with e | result
    · rw [h] at hsent
      cases hsent
    · exact ⟨result, rfl⟩
  refine ⟨?_, by decide +kernel, ?_⟩
  · obtain ⟨x, hx, hround⟩ := (Option.any_eq_true _ _).mp hsecond
    simp only [Bool.and_eq_true, Bool.not_eq_true', List.isEmpty_eq_false_iff, beq_iff_eq] at hround
    obtain ⟨_, text, m, hwaits, -, -⟩ := hputOnce.put 1 x hx hround.1
    have htext := hwaits.held 1 x hwaits.le (Nat.le_refl 1) hx
    obtain rfl := Option.some.inj (hround.2.symm.trans htext)
    exact ⟨m, hwaits⟩
  · obtain ⟨x, hx, hnone⟩ := hend (.sendJobs (by decide) (by decide) (by decide) hresult)
    rw [pairRounds, hx, Option.any_some] at hlast
    simp only [Bool.and_eq_true, Bool.not_eq_true', beq_iff_eq] at hlast
    obtain ⟨⟨hanon, hcurrent⟩, hcredentials⟩ := hlast
    exact hnone "921" hanon ⟨hcurrent, by decide, hcredentials⟩

end Dialog

end TanDialog
