import TanDialog.Proofs.Dialog.Deliveries
import TanDialog.Proofs.Reply.Responses

/-!
# Which order reference a second step is sent with

The reply to a message with several first steps may hold a TAN response for each of them. The
responses are searched for as one, so that a single reference comes out of the reply, and all second
steps that belong to the message are sent with it: the reference of the response whose path is the
greatest (`second_step_sent_with_shared_reference`). A second step gets the reference of its own
response only if that happens to be the same.
-/

namespace TanDialog.Dialog

open Passport

variable {parties : Parties} {n : Connection} {q p : MessageQueue} {id : String} {s : Session}

/-- The first steps in a message, in order. -/
def firstSteps (p : MessageQueue) (message : Message) : List TaskId :=
  message.filter fun f => (p.secondStep? f).isSome

/-- The request for a second step holds nothing but the second step, with the reference of the
reply to its first step. -/
theorem request_of_second_step (h : PatchesSteps parties.application id q p n.session s)
    {a b : Nat} {firstMessage secondMessage : Message} {first second : TaskId}
    (ha : p.messages[a]? = some firstMessage) (hfirst : first ∈ firstMessage)
    (hlink : p.secondStep? first = some second)
    (hb : p.messages[b]? = some secondMessage) (hsecond : second ∈ secondMessage)
    {x y : Round} (hx : (commandRounds parties n (.sendJobs q))[a]? = some x)
    (hy : (commandRounds parties n (.sendJobs q))[b]? = some y) :
    ∃ t reply, p.task? second = some t ∧ t.tanRequest?.isSome ∧
      (x.result parties).1 = .ok (.ofData reply) ∧
      y.request = .tasks [t.withOrderRef (replyReference reply)] := by
  have hsteps := h.inSteps
  have horder := hsteps.ready.inOrder
  rw [commandRounds_sendJobs h.patched] at hx hy
  obtain ⟨message, q', xs, hmessage, hsends, hround, hearlier⟩ := getElem?_sendingRounds hy
  obtain rfl := Option.some.inj (hb.symm.trans hmessage)
  obtain rfl := hsteps.alone first second secondMessage hlink (List.mem_of_getElem? hb) hsecond
  have hab : a < b := horder.lt ha hfirst hlink hb hsecond
  obtain ⟨x', z, hx', hz, hreply⟩ := hearlier a hab
  obtain rfl := Option.some.inj (hx.symm.trans hx')
  obtain ⟨t, ht, -, hblank⟩ := hsteps.ready.blank first second hlink
  have hsent : q'.task? second = some (t.withOrderRef (replyReference z.reply)) := by
    have hqueue := hsends.task?_of_linked (horder.take b) (by rwa [List.getElem?_take_of_lt hab]) hz
      hfirst hlink (hsteps.ready.awaits first second hlink)
      (fun u hu => by rwa [← Option.some.inj (ht.symm.trans hu)])
    rw [hqueue, ht, Option.map_some]
  refine ⟨t, z.reply, ht, ?_, hreply, ?_⟩
  · obtain ⟨request, hrequest, -⟩ := Option.map_eq_some_iff.mp hblank
    rw [hrequest]
    rfl
  · rw [hround, sendingRound]
    simp [MessageQueue.tasksOf, hsent]

/-- Requests with different references are different. -/
theorem withOrderRef_inj {t : Task} (ht : t.tanRequest?.isSome) {ref ref' : String} :
    t.withOrderRef ref = t.withOrderRef ref' ↔ ref = ref' := by
  refine ⟨fun h => ?_, fun h => by rw [h]⟩
  obtain ⟨request, hrequest⟩ := Option.isSome_iff_exists.mp ht
  have := congrArg Task.orderRef? h
  simpa [Task.orderRef?, hrequest] using this

/-- **One reference for all second steps.** The reply to a message with first steps holds a TAN
response with an order reference for each of them. Every second step that belongs to the message is
sent with the reference of the response whose path is the greatest, and so with the reference of its
own response exactly if the two are the same. -/
theorem second_step_sent_with_shared_reference
    (h : PatchesSteps parties.application id q p n.session s)
    {a b i version : Nat} {firstMessage secondMessage : Message} {first second : TaskId}
    (ha : p.messages[a]? = some firstMessage)
    (hfirst : (firstSteps p firstMessage)[i]? = some first)
    (hlink : p.secondStep? first = some second)
    (hb : p.messages[b]? = some secondMessage) (hsecond : second ∈ secondMessage)
    {x y : Round} (hx : (commandRounds parties n (.sendJobs q))[a]? = some x)
    (hy : (commandRounds parties n (.sendJobs q))[b]? = some y)
    {reply : PropertySet} (hreply : (x.result parties).1 = .ok (.ofData reply))
    {refs : List String} (hrefs : HoldsReferences reply version refs)
    {ref : String} (href : refs[i]? = some ref) :
    ∃ t last shared, p.task? second = some t ∧ refs[last]? = some shared ∧
      (∀ j < refs.length, ¬ referencePath version last < referencePath version j) ∧
      y.request = .tasks [t.withOrderRef shared] ∧
      (y.request = .tasks [t.withOrderRef ref] ↔ ref = shared) := by
  have hmem : first ∈ firstMessage := List.mem_of_mem_filter (List.mem_of_getElem? hfirst)
  obtain ⟨t, reply', ht, hrequest, hreply', hy⟩ :=
    request_of_second_step h ha hmem hlink hb hsecond hx hy
  obtain rfl : reply' = reply :=
    congrArg ReplyStatus.data (Except.ok.inj (hreply'.symm.trans hreply))
  obtain ⟨last, shared, hlast, hlargest, hfind⟩ :=
    hrefs.get?_find (List.ne_nil_of_mem (List.mem_of_getElem? href))
  have hreference : replyReference reply' = shared := by
    rw [replyReference, hfind, Option.getD_some]
  rw [hreference] at hy
  refine ⟨t, last, shared, ht, hlast, hlargest, hy, ?_⟩
  rw [hy, Request.tasks.injEq, List.cons.injEq, withOrderRef_inj hrequest]
  exact ⟨fun heq => heq.1.symm, fun heq => ⟨heq.symm, rfl⟩⟩

/-! ### A sample run -/

/-- A reply with a TAN response for each of two orders. -/
def twoResponses : PropertySet :=
  .ofList [("TAN2StepRes6.orderref", "R1"), ("TAN2StepRes6_2.orderref", "R2")]

theorem holdsReferences_twoResponses : HoldsReferences twoResponses 6 ["R1", "R2"] where
  each := fun i ref hi => by
    rcases i with _ | _ | i
    · obtain rfl : "R1" = ref := Option.some.inj hi
      rfl
    · obtain rfl : "R2" = ref := Option.some.inj hi
      rfl
    · cases hi
  only := by decide +kernel

/-- The second step for the first transfer is sent with the reference of the other one. -/
theorem second_step_sent_with_shared_reference_sample :
    ∃ y t, (commandRounds (steadyParties "12345" twoResponses) pushConnection
        (.sendJobs transferPair))[2]? = some y ∧
      patchedPair.task? 2 = some t ∧ y.request = .tasks [t.withOrderRef "R2"] ∧
      y.request ≠ .tasks [t.withOrderRef "R1"] := by
  obtain ⟨s, hpatches⟩ := patchesSteps_transferPair "12345"
  have hresult : (commandRounds (steadyParties "12345" twoResponses) pushConnection
      (.sendJobs transferPair))[0]?.map (fun x =>
        (x.result (steadyParties "12345" twoResponses)).1) = some (.ok (.ofData twoResponses)) := by
    decide +kernel
  have hround : (commandRounds (steadyParties "12345" twoResponses) pushConnection
      (.sendJobs transferPair))[2]?.isSome := by
    decide +kernel
  obtain ⟨x, hx, hreply⟩ := Option.map_eq_some_iff.mp hresult
  obtain ⟨y, hy⟩ := Option.isSome_iff_exists.mp hround
  obtain ⟨t, last, shared, ht, hlast, hlargest, hrequest, hown⟩ :=
    second_step_sent_with_shared_reference hpatches (a := 0) (b := 2) (i := 0) rfl rfl rfl rfl
      (List.mem_singleton.mpr rfl) hx hy hreply holdsReferences_twoResponses rfl
  -- the first one of the two paths is not the greatest
  have hpath : referencePath 6 0 < referencePath 6 1 := by decide
  obtain rfl : "R2" = shared := by
    rcases last with _ | _ | last
    · exact absurd hpath (hlargest 1 (by decide))
    · exact Option.some.inj hlast
    · cases hlast
  exact ⟨y, t, hy, ht, hrequest, fun h => absurd (hown.mp h) (by decide)⟩

end TanDialog.Dialog
