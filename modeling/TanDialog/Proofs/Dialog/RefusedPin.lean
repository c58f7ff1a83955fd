import TanDialog.Dialog.Script
import TanDialog.Proofs.Dialog.Series

/-!
# A refused PIN is not used again

Once the bank has refused the PIN, the PIN is forgotten before anything else happens with the bank.
So, along the whole rest of a series of runs, every message is signed with a PIN that the user has
given since (`Course.signsSince`), whether it belongs to the same run or to a later one, and
whether or not the reaction to the refusal has failed (`refused_pin_not_reused`).
-/

namespace TanDialog.Dialog

variable {parties : Parties} {n n' : Connection} {xs : List Round} {since : List Call}

/-- A signature in an exchange, unless it is empty, begins with a PIN for which the user was asked
after the calls `since`. -/
def Round.SignsSince (parties : Parties) (since : List Call) (y : Round) : Prop :=
  ∀ message sig delivery, .sent message sig delivery ∈ y.events parties → sig ≠ "" →
    ∃ pin tan, sig = pin ++ "|" ++ tan ∧
      (y.after parties).session.GivenSince parties.application since pin

theorem Round.signsSince {y : Round}
    (h : PinSince parties.application since y.before.session) : y.SignsSince parties since := by
  intro message sig delivery hsent hsig
  have hsigned := signed_of_mem_events hsent
  rw [signed] at hsigned
  split at hsigned
  case isTrue => exact absurd (Except.ok.inj (Prod.mk.inj hsigned).1).symm hsig
  case isFalse => exact h.exec_sign_ok hsigned

namespace Course

/-- If the PIN was given since some calls, or is not known, then all messages that follow are signed
with such a PIN. -/
theorem signsSince (h : Course parties n xs n')
    (hpin : PinSince parties.application since n.session) :
    ∀ y ∈ xs, y.SignsSince parties since := by
  induction h with
  | done _ =>
    intro y hy
    cases hy
  | evolve hevolves _ ih => exact ih (hpin.evolves hevolves)
  | @exchange x xs s n' hleads _ ih =>
    -- the session evolves while the exchange is signed, and again until the next one
    have hrest := ih ((hpin.evolves x.evolves_after).evolves hleads.evolves)
    intro y hy
    rcases List.mem_cons.mp hy with rfl | hy
    · exact y.signsSince hpin
    · exact hrest y hy

theorem pairwise_signsSince (h : Course parties n xs n') :
    xs.Pairwise fun x y =>
      x.RefusesPin parties → y.SignsSince parties (x.after parties).session.calls := by
  induction h with
  | done _ => exact .nil
  | evolve _ _ ih => exact ih
  | exchange hleads hrest ih =>
    refine .cons (fun y hy hrefuses => ?_) ih
    -- at some point after the reply the PIN is not known
    obtain ⟨t, hforgotten, hnone, hevolves⟩ := hleads.forgets hrefuses
    have hpin : PinSince parties.application _ t := .of_none hforgotten.calls_suffix hnone
    exact signsSince hrest (hpin.evolves hevolves) y hy

end Course

/-- **A refused PIN is not used again.** The events of a series of runs are those of its exchanges.
If the bank refuses the PIN in one of them, then in all later ones a signature that is not empty
begins with a PIN for which the user was asked after the refusal. -/
theorem refused_pin_not_reused (parties : Parties) (commands : List Command) (n : Connection) :
    (perform (runAll parties commands) n).2.events =
      (rounds parties commands n).reverse.flatMap (Round.events parties) ++ n.events ∧
    (rounds parties commands n).Pairwise fun x y =>
      x.RefusesPin parties → y.SignsSince parties (x.after parties).session.calls := by
  have hcourse := course_runAll parties commands n
  exact ⟨hcourse.events_eq, hcourse.pairwise_signsSince⟩

/-! ### A sample series -/

/-- A reply that refuses the PIN. -/
def refusingReply : PropertySet :=
  .ofList [("RetGlob.RetVal.code", "9942"), ("RetGlob.RetVal.text", "PIN falsch")]

/-- A user who gives two PINs, one after the other, and a bank that refuses every PIN. -/
def refusingParties : Parties :=
  { steadyParties "" refusingReply with
    application := ApplicationScript.application { pins := ["11111", "22222"] } }

/-- A connection of a passport without bank parameters. -/
def freshConnection : Connection where
  session := { passport := .new {} }

/-- The second dialog is opened with the second PIN. -/
theorem refused_pin_not_reused_sample :
    ∃ x y,
      rounds refusingParties [.start .start none, .start .start none] freshConnection = [x, y] ∧
      x.RefusesPin refusingParties ∧
      .sent [] "22222|" (.replied refusingReply) ∈ y.events refusingParties ∧
      ∃ pin tan, "22222|" = pin ++ "|" ++ tan ∧
        (y.after refusingParties).session.GivenSince refusingParties.application
          (x.after refusingParties).session.calls pin := by
  have hrounds : ∃ x y,
      rounds refusingParties [.start .start none, .start .start none] freshConnection = [x, y] ∧
      x.RefusesPin refusingParties ∧
      .sent [] "22222|" (.replied refusingReply) ∈ y.events refusingParties := by
    refine ⟨_, _, rfl, ⟨rfl, .ofData refusingReply, rfl, ?_⟩, ?_⟩
    · exact ReplyStatus.isSome_authFailure?.mp (by decide +kernel)
    · exact List.mem_cons_self
  obtain ⟨x, y, hxy, hrefuses, hsent⟩ := hrounds
  obtain ⟨-, hpairwise⟩ := refused_pin_not_reused refusingParties
    [.start .start none, .start .start none] freshConnection
  rw [hxy] at hpairwise
  have hlater := List.rel_of_pairwise_cons hpairwise (List.mem_singleton_self y)
  exact ⟨x, y, hxy, hrefuses, hsent, hlater hrefuses _ _ _ hsent (by decide)⟩

end TanDialog.Dialog
