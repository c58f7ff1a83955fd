import TanDialog.Passport.Authentication
import TanDialog.Passport.Patch
import TanDialog.Passport.Reaction

/-!
# Events of a dialog

A dialog turns to the passport at three moments: before the opening is encoded, after each reply,
and when tasks have been queued. A passport that refuses leaves the context as it is, except that
a queue stays patched as far as it got.
-/

namespace TanDialog.Passport

/-- Reacts to a reply: to its return codes first, then to its challenge. -/
def react (app : Application) (c : Context) : Action Context := do
  forgetRefusedPin c
  let c ← checkAllowedMethods app c
  reportChangedIds c
  receiveChallenge c

/-- The outcome of an action on a context, which a failure leaves as it is. -/
def unlessFailing (c : Context) (action : Action Context) :
    Effect (Except Error Unit × Context) := do
  match ← action.run with
  | .ok c => return (.ok (), c)
  | .error e => return (.error e, c)

/-- Handles an event. -/
def handle (app : Application) (e : Event) (c : Context) :
    Effect (Except Error Unit × Context) := do
  match e with
  | .messageCreated => unlessFailing c (requestAuthentication app c)
  | .messageSent => unlessFailing c (react app c)
  | .jobsCreated =>
    match c.queue with
    | none => return (.ok (), c)
    | some q =>
      let (result, q) ← patch app q
      return (result, { c with queue := some q })

end TanDialog.Passport
