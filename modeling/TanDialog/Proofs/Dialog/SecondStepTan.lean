import TanDialog.Proofs.Dialog.Deliveries
import TanDialog.Proofs.Dialog.SecondStep

/-!
# Which second steps are signed with a TAN

A passport keeps one challenge. The reply to a message with first steps fills it, and the next
message that is signed uses it up, with a TAN. So the challenge that a message is signed in view of
is the one of the reply right before it, if that is searched for a challenge at all
(`text_before_next`). When several second steps follow one message, only the first one of them is
signed with a TAN (`second_step_signed_with_tan_iff`).
-/

namespace TanDialog

namespace Dialog

open Passport

variable {parties : Parties} {message : Message} {messages : List Message}
  {p q q' : MessageQueue} {c c' : Context} {n n' : Connection} {status : ReplyStatus} {id : String}

/-! ### A single delivery -/

/-- A session signs under a two-step method, and has credentials. -/
structure SignsInSteps (id : String) (s : Session) : Prop where
  current : s.passport.current = some id
  twoStep : id ≠ Method.oneStepId
  credentials : s.passport.anonymous = false

/-- The response of a reply is stored if some task of the message awaits it. -/
theorem passport_of_exec_takeReply (status : ReplyStatus) (message : Message) (q : MessageQueue)
    (n : Connection) :
    (exec (takeReply status (q.tasksOf message) q) n).2.session.passport =
      { n.session.passport with
        challenge :=
          if awaiting q message = [] then n.session.passport.challenge
          else n.session.passport.challenge.storeResponse (status.data.find responseQuery) } := by
  rw [exec_takeReply, Session.storing]
  split <;> rfl

/-- The text of the challenge after a delivery: that of the reply if some task of the message awaits
a challenge, and none otherwise, as the one before has been used up. -/
theorem exec_deliver_ok_of_signsInSteps (hsigns : SignsInSteps id n.session)
    (hauth : c.authenticates = false)
    (h : exec (deliver parties message q c) n = (.ok (status, q', c'), n'))
    (hallowed : status.warningsWith .methodsAllowed = []) :
    SignsInSteps id n'.session ∧ c'.authenticates = false ∧
      n'.session.passport.challenge.text =
        if awaiting q message = [] then none
        else (status.data.find responseQuery).getNonEmpty? "challenge" := by
  obtain ⟨reply, n₁, s, hresult, rfl, rfl, htake, hfire⟩ := exec_deliver_ok h
  obtain ⟨pin, hsigned⟩ :=
    challenge_of_exec_exchange_ok hresult hsigns.credentials hsigns.current hsigns.twoStep
  have hstored := passport_of_exec_takeReply (.ofData reply) message q n₁
  rw [htake, hsigned] at hstored
  obtain ⟨s', pin', hreact, hs'⟩ := exec_react_of_not_authenticates parties.application
    (c := { c with queue := some (settle q message reply), status := some (.ofData reply) })
    (s := s) hauth (by simp [warningsWith, hallowed])
  rw [exec_fire_messageSent, hreact] at hfire
  obtain ⟨hc', rfl⟩ := Prod.mk.inj hfire
  obtain rfl := Except.ok.inj hc'
  refine ⟨⟨?_, hsigns.twoStep, ?_⟩, hauth, ?_⟩
  · rw [hs', hstored]
    exact hsigns.current
  · rw [hs', hstored]
    exact hsigns.credentials
  · rw [hs', hstored]
    split
    · rfl
    · rw [Challenge.storeResponse_used]

/-! ### One delivery after another -/

/-- A message is signed in view of the reply to the message right before it. -/
theorem text_before_next (hsigns : SignsInSteps id n.session) (hauth : c.authenticates = false)
    (hallowed : ∀ x ∈ sendingRounds parties messages q c n, ∀ status,
      (x.result parties).1 = .ok status → status.warningsWith .methodsAllowed = [])
    {a : Nat} {x y : Round} (hx : (sendingRounds parties messages q c n)[a]? = some x)
    (hy : (sendingRounds parties messages q c n)[a + 1]? = some y)
    (hmessage : messages[a]? = some message) :
    SignsInSteps id y.before.session ∧ ∃ status, (x.result parties).1 = .ok status ∧
      y.before.session.passport.challenge.text =
        if awaiting q message = [] then none
        else (status.data.find responseQuery).getNonEmpty? "challenge" := by
  induction messages generalizing a q c n with
  | nil => cases hmessage
  | cons first messages ih =>
    simp only [sendingRounds] at hx hy hallowed
    rcases hdeliver : exec (deliver parties first q c) n with ⟨e | ⟨status, q₁, c₁⟩, n₁⟩
    · simp [hdeliver] at hy
    · simp only [hdeliver, List.getElem?_cons_succ, List.mem_cons, forall_eq_or_imp]
        at hx hy hallowed
      obtain ⟨reply, n₂, s, hresult, hreply, hq₁, -, -⟩ := exec_deliver_ok hdeliver
      obtain ⟨hsigns₁, hauth₁, htext⟩ := exec_deliver_ok_of_signsInSteps hsigns hauth hdeliver
        (hallowed.1 status (by rw [hresult, hreply]))
      cases a with
      | zero =>
        obtain rfl : first = message := Option.some.inj hmessage
        obtain rfl : sendingRound first q n = x := Option.some.inj hx
        have hbefore : y.before = n₁ := by
          cases messages with
          | nil => cases hy
          | cons second messages =>
            obtain rfl : sendingRound second q₁ n₁ = y := Option.some.inj hy
            rfl
        rw [hbefore]
        exact ⟨hsigns₁, status, by rw [hresult, hreply], htext⟩
      | succ a =>
        have hawaiting : awaiting q₁ message = [] ↔ awaiting q message = [] := by
          simp only [List.eq_nil_iff_forall_not_mem, mem_awaiting, hq₁, any_awaitsChallenge_settle]
        simp only [← hawaiting]
        exact ih hsigns₁ hauth₁ hallowed.2 hx hy hmessage

/-- **A TAN for one second step.** A queue of business tasks is sent under a method of variant two,
with credentials, and without a word of the bank on the allowed methods. The reply to the message
with a first step brings a challenge. Then the message with its second step, when it is sent, is
signed with a TAN exactly if it is the next one. -/
theorem second_step_signed_with_tan_iff {s : Session}
    (h : PatchesSteps parties.application id q p n.session s)
    (hcredentials : n.session.passport.anonymous = false)
    (hallowed : ∀ x ∈ commandRounds parties n (.sendJobs q), ∀ status,
      (x.result parties).1 = .ok status → status.warningsWith .methodsAllowed = [])
    {a b : Nat} {firstMessage secondMessage : Message} {first second : TaskId}
    (ha : p.messages[a]? = some firstMessage) (hfirst : first ∈ firstMessage)
    (hlink : p.secondStep? first = some second)
    (hb : p.messages[b]? = some secondMessage) (hsecond : second ∈ secondMessage)
    {x y : Round} (hx : (commandRounds parties n (.sendJobs q))[a]? = some x)
    (hy : (commandRounds parties n (.sendJobs q))[b]? = some y)
    (hchallenge : ∀ status, (x.result parties).1 = .ok status →
      ∃ text, (status.data.find responseQuery).getNonEmpty? "challenge" = some text)
    {bytes : List UInt8} {sig : String} {delivery : Delivery}
    (hsent : .sent bytes sig delivery ∈ y.events parties) :
    ∃ tan, sig = pinFor parties.application y.before.session ++ "|" ++ tan ∧
      (tan ≠ "" ↔ b = a + 1) := by
  have hsteps := h.inSteps
  have horder := hsteps.ready.inOrder
  obtain ⟨hcurrent, hanonymous⟩ := h.passport
  have hsigns : SignsInSteps id s := ⟨hcurrent, h.twoStep, hanonymous.trans hcredentials⟩
  rw [commandRounds_sendJobs h.patched] at hx hy hallowed
  obtain rfl := hsteps.alone first second secondMessage hlink (List.mem_of_getElem? hb) hsecond
  obtain ⟨a', message, rfl, hmessage, hfollows⟩ := hsteps.follows first second b hlink hb
  obtain ⟨_, _, _, -, -, hround, hearlier⟩ := getElem?_sendingRounds hy
  obtain ⟨x', _, hx', -, -⟩ := hearlier a' (Nat.lt_succ_self a')
  obtain ⟨hsigns', status, hstatus, htext⟩ :=
    text_before_next hsigns rfl hallowed hx' hy hmessage
  -- the message is signed in this session, with credentials
  have hanon : y.anonymous = false := by
    rw [hround]
    rfl
  have hsigned := Round.signed_of_mem_events hsent
  simp only [signed, hanon, hsigns'.credentials, Bool.or_self, Bool.false_eq_true,
    if_false] at hsigned
  obtain ⟨tan, rfl, htan⟩ :=
    signature_of_exec_sign_ok hsigns'.current hsigns'.twoStep hsigned
  refine ⟨tan, rfl, htan.trans ?_⟩
  have hawaits := hsteps.ready.awaits first second hlink
  rcases hfollows with hnext | hnone
  · -- the message before holds the first step
    obtain rfl : a = a' := horder.eq ha hfirst hlink hmessage hnext
    obtain rfl := Option.some.inj (hx.symm.trans hx')
    have hsome : awaiting p message ≠ [] :=
      List.ne_nil_of_mem (mem_awaiting.mpr ⟨hnext, hawaits⟩)
    obtain ⟨text, hchallenge⟩ := hchallenge status hstatus
    rw [htext, if_neg hsome, hchallenge]
    exact iff_of_true ⟨text, rfl⟩ rfl
  · -- the message before awaits no challenge, so that it is another one
    have hnil : awaiting p message = [] := by
      refine List.eq_nil_iff_forall_not_mem.mpr fun g hg => ?_
      have := mem_awaiting.mp hg
      rw [hnone g this.1] at this
      exact absurd this.2 (by decide)
    rw [htext, if_pos hnil]
    refine iff_of_false (by simp) fun heq => ?_
    obtain rfl := Nat.succ.inj heq
    obtain rfl := Option.some.inj (ha.symm.trans hmessage)
    rw [hnone first hfirst] at hawaits
    exact absurd hawaits (by decide)

/-! ### A sample run -/

/-- The exchanges for two transfers in one message, each of them answered with a challenge. -/
def pairRounds : List Round :=
  commandRounds challengingParties pushConnection (.sendJobs transferPair)

/-- The second step for the second transfer comes first; the one for the first transfer is sent
without a TAN. -/
theorem second_step_signed_with_tan_iff_sample :
    ∃ y bytes sig delivery, pairRounds[2]? = some y ∧
      .sent bytes sig delivery ∈ y.events challengingParties ∧
      sig = pinFor challengingParties.application y.before.session ++ "|" := by
  obtain ⟨s, hpatches⟩ := patchesSteps_transferPair "111111"
  have hstatuses : pairRounds.all (fun x =>
      (x.result challengingParties).1.toOption == some (.ofData challengeReply)) := by
    decide +kernel
  have hsending : pairRounds[2]?.any fun y =>
      (y.events challengingParties).any BankEvent.isSending := by
    decide +kernel
  have hstatus (x : Round) (hx : x ∈ pairRounds) (status : ReplyStatus)
      (hresult : (x.result challengingParties).1 = .ok status) :
      status = .ofData challengeReply := by
    have := List.all_eq_true.mp hstatuses x hx
    rw [hresult] at this
    exact Option.some.inj (beq_iff_eq.mp this)
  obtain ⟨y, hy, hevents⟩ := (Option.any_eq_true _ _).mp hsending
  obtain ⟨event, hmem, hsent⟩ := List.any_eq_true.mp hevents
  cases event with
  | encoded => cases hsent
  | sent bytes sig delivery =>
    obtain ⟨x, hx⟩ : ∃ x, pairRounds[0]? = some x :=
      ⟨_, List.getElem?_eq_getElem (Nat.lt_of_le_of_lt (Nat.zero_le 2)
        (List.getElem?_eq_some_iff.mp hy).1)⟩
    have hallowed (x : Round) (hx : x ∈ pairRounds) (status : ReplyStatus)
        (hresult : (x.result challengingParties).1 = .ok status) :
        status.warningsWith .methodsAllowed = [] := by
      rw [hstatus x hx status hresult]
      decide
    have hchallenge (status : ReplyStatus)
        (hresult : (x.result challengingParties).1 = .ok status) :
        ∃ text, (status.data.find responseQuery).getNonEmpty? "challenge" = some text := by
      rw [hstatus x (List.mem_of_getElem? hx) status hresult]
      exact ⟨"Code 4711", rfl⟩
    obtain ⟨tan, hsig, htan⟩ := second_step_signed_with_tan_iff hpatches rfl hallowed
      (a := 0) (b := 2) (by rfl) (by decide : 3 ∈ [0, 1, 3, 5]) (by rfl) (by rfl)
      (List.mem_singleton.mpr rfl) hx hy hchallenge hmem
    obtain rfl : tan = "" := not_not.mp fun hne => absurd (htan.mp hne) (by decide)
    exact ⟨y, bytes, sig, delivery, hy, hmem, by rw [hsig, String.append_empty]⟩

end Dialog

end TanDialog
