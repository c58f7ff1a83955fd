import TanDialog.Proofs.Dialog.Opening

/-!
# What runs cost

A step of a run only adds to what has happened with the bank. How much it may add is its cost: an
exchange is one request and one message at most, the rest is free, and the costs of a sequence are
those of its parts together. So the events of an exchange are there when the run is over
(`Begins.exists_events_start`).
-/

namespace TanDialog

namespace Dialog

variable {parties : Parties} {template : Template} {queue : Option MessageQueue}
  {c made : Context} {n n₀ n₁ : Connection} {k : Nat}

/-! ### What a step costs -/

/-- A step makes at most a number of attempts to encode requests, and at most a number of attempts
to send messages. -/
def Costs {α : Type} (x : Run α) (encodings sendings : Nat) : Prop :=
  ∀ n, ∃ events, (exec x n).2.events = events ++ n.events ∧
    events.countP BankEvent.isEncoding ≤ encodings ∧ events.countP BankEvent.isSending ≤ sendings

namespace Costs

variable {α β : Type} {x : Run α} {e s i j k l : Nat}

/-- A step that does not turn to the bank costs nothing. -/
theorem of_events_eq (h : ∀ n, (exec x n).2.events = n.events) : Costs x e s := by
  intro n
  exact ⟨[], h n, Nat.zero_le _, Nat.zero_le _⟩

/-- The costs of a sequence add up; if its first part fails, there are only those of that part. -/
theorem bind {f : α → Run β} (hx : Costs x i j) (hf : ∀ a, Costs (f a) k l) (he : i + k ≤ e)
    (hs : j + l ≤ s) : Costs (x >>= f) e s := by
  intro n
  obtain ⟨events, hevents, hencodings, hsendings⟩ := hx n
  rw [exec_bind]
  generalize exec x n = o at hevents
  obtain ⟨_ | a, n₁⟩ := o
  · exact ⟨events, hevents, by omega, by omega⟩
  · -- the newest events come first, and these are those of the second part
    obtain ⟨events', hevents', hencodings', hsendings'⟩ := hf a n₁
    refine ⟨events' ++ events, ?_, ?_, ?_⟩
    · rw [hevents', hevents, List.append_assoc]
    · rw [List.countP_append]
      omega
    · rw [List.countP_append]
      omega

end Costs

theorem costs_fire (e : Event) (c : Context) : Costs (fire parties e c) 0 0 :=
  .of_events_eq fun n => by rw [exec_fire, snd_inRun]

theorem costs_exchange (request : Request) (anonymous : Bool) :
    Costs (exchange parties request anonymous) 1 1 := by
  intro n
  rw [exec_exchange]
  cases parties.bank.encode n.events request with
  | error e => exact ⟨[_], rfl, Nat.le_refl 1, Nat.zero_le 1⟩
  | ok message =>
    dsimp only
    rcases signed parties anonymous message n.session with ⟨e | sig, s⟩
    · exact ⟨[_], rfl, Nat.le_refl 1, Nat.zero_le 1⟩
    · exact ⟨[_, _], rfl, Nat.le_refl 1, Nat.le_refl 1⟩

theorem costs_attempt (template : Template) (c : Context) :
    Costs (attempt parties template c) 1 1 :=
  (costs_fire _ _).bind
    (fun _ => (costs_exchange _ _).bind (fun _ => costs_fire _ _) (Nat.le_refl 1) (Nat.le_refl 1))
    (Nat.le_refl 1) (Nat.le_refl 1)

/-! ### Repetitions -/

/-- One exchange of a run that opens a dialog, and what follows from it. -/
theorem exec_negotiate (template : Template) (maxRestarts left : Nat) (c : Context)
    (n : Connection) :
    exec (negotiate parties template maxRestarts left c) n =
      match exec (attempt parties template c) n with
      | (.error e, n') => (.error e, n')
      | (.ok c', n') =>
        if c'.again then
          match left with
          | 0 => (.error (.tooManyRestarts maxRestarts), n')
          | left + 1 =>
            exec (negotiate parties template maxRestarts left { c' with again := false }) n'
        else (.ok c', n') := by
  rw [negotiate.eq_def, exec_bind]
  rcases exec (attempt parties template c) n with
    ⟨_ | ⟨anonymous, opening, queue, status, step, _ | _⟩, n'⟩
  · rfl
  · rfl
  · cases left <;> rfl

/-- Every repetition that is left may cost one more exchange. -/
theorem costs_negotiate (template : Template) (maxRestarts left : Nat) (c : Context) :
    Costs (negotiate parties template maxRestarts left c) (left + 1) (left + 1) := by
  induction left generalizing c with
  | zero =>
    rw [negotiate]
    -- after the last attempt the run ends, whether the flag is raised or not
    refine (costs_attempt template c).bind (k := 0) (l := 0) (fun c' => ?_) (Nat.le_refl 1)
      (Nat.le_refl 1)
    dsimp only [Context.takeAgain]
    split <;> exact .of_events_eq fun _ => rfl
  | succ left ih =>
    rw [negotiate]
    have hsum : 1 + (left + 1) ≤ left + 1 + 1 := by omega
    refine (costs_attempt template c).bind (fun c' => ?_) hsum hsum
    dsimp only [Context.takeAgain]
    split
    · exact .of_events_eq fun n => rfl
    · exact ih _

/-! ### The events of an exchange -/

/-- What has happened in the first part of a sequence is there at its end. -/
theorem exists_events_bind {α β : Type} {x : Run α} {f : α → Run β} {e s : Nat}
    (hf : ∀ a, Costs (f a) e s) (n : Connection) :
    ∃ later, (exec (x >>= f) n).2.events = later ++ (exec x n).2.events := by
  rw [exec_bind]
  rcases exec x n with ⟨_ | a, n₁⟩
  · exact ⟨[], rfl⟩
  · obtain ⟨later, hlater, -⟩ := hf a n₁
    exact ⟨later, hlater⟩

theorem exists_events_negotiate (template : Template) (maxRestarts left : Nat) (c : Context)
    (n : Connection) :
    ∃ later, (exec (negotiate parties template maxRestarts left c) n).2.events =
      later ++ (exec (attempt parties template c) n).2.events := by
  rw [exec_negotiate]
  rcases exec (attempt parties template c) n with ⟨_ | c', n'⟩
  · exact ⟨[], rfl⟩
  · dsimp only
    split
    case isFalse => exact ⟨[], rfl⟩
    case isTrue =>
      cases left with
      | zero => exact ⟨[], rfl⟩
      | succ left =>
        obtain ⟨later, hlater, -⟩ := costs_negotiate template maxRestarts left _ n'
        exact ⟨later, hlater⟩

/-- What happens in an exchange is there when the run is over. -/
theorem Begins.exists_events_start (h : Begins parties template queue n₀ k c n)
    (hmade : exec (fire parties .messageCreated c.clearFields) n = (.ok made, n₁)) :
    ∃ later, (exec (start parties template queue) n₀).2.events =
      later ++
        (exec (exchange parties (openingRequest template made) made.anonymous) n₁).2.events := by
  obtain ⟨later, hlater⟩ := exists_events_negotiate template
    n₀.session.passport.config.maxRestarts (n₀.session.passport.config.maxRestarts - k) c n
  rw [h.exec_start.2, hlater, attempt, exec_bind, hmade]
  dsimp only
  obtain ⟨reaction, hreaction⟩ := exists_events_bind
    (x := exchange parties (openingRequest template made) made.anonymous)
    (fun status => costs_fire .messageSent { made with status := some status }) n₁
  exact ⟨later ++ reaction, by rw [hreaction, List.append_assoc]⟩

end Dialog

end TanDialog
