import TanDialog.Proofs.Dialog.Series
import TanDialog.Proofs.LookUps

/-!
# Look-ups of a run

A run looks segments up when its queue is patched, and when its messages are signed. The look-ups of
a command (`commandLookUps`) account for the verification mode, as those of its parts do
(`balances_run`): openings and replies leave the mode alone.
-/

namespace TanDialog.Dialog

/-- The look-ups for the signature of a message, which there is only with credentials. -/
def signedLookUps (parties : Parties) (anonymous : Bool) (message : List UInt8) (s : Session) :
    List LookUp :=
  if anonymous || s.passport.anonymous then []
  else Passport.signLookUps parties.application message s

/-- The look-ups of an exchange. -/
def Round.lookUps (parties : Parties) (x : Round) : List LookUp :=
  match parties.bank.encode x.before.events x.request with
  | .error _ => []
  | .ok message => signedLookUps parties x.anonymous message x.before.session

/-- The look-ups of a command. -/
def commandLookUps (parties : Parties) (n : Connection) : Command → List LookUp
  | .start template queue =>
    (commandRounds parties n (.start template queue)).flatMap (Round.lookUps parties)
  | .sendJobs queue =>
    Passport.eventLookUps parties.application .jobsCreated (.ofQueue queue) n.session ++
      (commandRounds parties n (.sendJobs queue)).flatMap (Round.lookUps parties)

variable (parties : Parties)

theorem balances_signed (anonymous : Bool) (message : List UInt8) (s : Session) :
    s.Balances (signedLookUps parties anonymous message s)
      (signed parties anonymous message s).2 := by
  rw [signedLookUps, signed]
  split
  · exact .refl s
  · exact Passport.balances_sign parties.application message s

theorem Round.balances_after (x : Round) :
    x.before.session.Balances (x.lookUps parties) (x.after parties).session := by
  rw [Round.after, Round.result, exec_exchange, Round.lookUps]
  cases parties.bank.encode x.before.events x.request with
  | error e => exact .refl _
  | ok message =>
    have hsigned := balances_signed parties x.anonymous message x.before.session
    dsimp only
    generalize signed parties x.anonymous message x.before.session = o at hsigned
    obtain ⟨_ | sig, s⟩ := o <;> exact hsigned

/-- Openings are prepared, and replies taken in, without look-ups. -/
theorem steers_balances :
    Steers parties (Session.Balances · [] ·)
      (fun x s => (x.after parties).session.Balances [] s) where
  messageCreated := basics_balances.messageCreated parties.application
  failed {_ _} _ := .refl _
  replied {x status c} ids _ _ _ := by
    have hstoring : (x.after parties).session.Balances []
        ((x.after parties).session.storing (status.data.find Passport.responseQuery) ids) := by
      refine .of_verifyTanMode_eq ?_
      rw [Session.storing]
      split <;> rfl
    exact hstoring.append (Passport.balances_react parties.application c _)

variable {parties} in
/-- The look-ups of the exchanges of a trace account for the mode. -/
theorem Trace.balances {n n' : Connection} {xs : List Round}
    (h : Trace parties (Session.Balances · [] ·)
      (fun x s => (x.after parties).session.Balances [] s) n xs n') :
    n.session.Balances (xs.flatMap (Round.lookUps parties)) n'.session := by
  induction h with
  | done n => exact .refl _
  | evolve hbetween _ ih => exact hbetween.append ih
  | @exchange x xs _ _ hsettles _ ih =>
    rw [List.flatMap_cons]
    exact (x.balances_after parties).append (hsettles.append ih)

/-- **Runs.** The look-ups of a run account for the mode, whatever comes of it. -/
theorem balances_run (command : Command) (n : Connection) :
    n.session.Balances (commandLookUps parties n command)
      (perform (command.run parties) n).2.session := by
  cases command with
  | start template queue => exact ((steers_balances parties).trace_start template queue n).balances
  | sendJobs queue =>
    exact (Passport.balances_handle parties.application .jobsCreated (.ofQueue queue)
      n.session).append ((steers_balances parties).trace_sendJobs queue n).balances

end TanDialog.Dialog
