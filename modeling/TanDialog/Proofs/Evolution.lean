import Mathlib.Logic.Relation
import TanDialog.Proofs.Reaction
import TanDialog.Proofs.Routine
import TanDialog.Proofs.Signature

/-!
# How a session evolves

All that a dialog does to a session is a series of elementary changes (`Session.Change`): a call is
made, a PIN is obtained, the PIN is forgotten, a method comes into use, and so on. `Evolving` says
of a step that it does nothing else, whatever the answers of the user are and whether or not the
passport refuses. The routine of a passport evolves the session (`routine_evolves`); signatures
(`evolving_sign`) and events (`evolving_handle`) are put together along the sequence of their steps.
So what every change keeps is kept by whole dialogs.
-/

namespace TanDialog

namespace Session

/-- One elementary change of a session. -/
inductive Change (app : Application) (s : Session) : Session → Prop
  /-- A call is made. -/
  | call (c : Call) : Change app s { s with calls := c :: s.calls }
  /-- The user is asked for the PIN, and the answer is kept. -/
  | obtainPin (hne : app.answer (.requestPin :: s.calls) ≠ "") :
      Change app s
        { passport := { s.passport with pin := some (app.answer (.requestPin :: s.calls)) }
          calls := .requestPin :: s.calls }
  /-- The PIN is forgotten. -/
  | forgetPin : Change app s { s with passport := { s.passport with pin := none } }
  /-- A segment is looked up. -/
  | lookUp (code : String) : Change app s { s with passport := s.passport.lookedUp code }
  /-- A method comes into use. -/
  | takeMethod (id : String) (auto : Bool) :
      Change app s
        { s with passport := { s.passport with current := some id, autoSelected := auto } }
  /-- The methods that the bank allows are taken over. -/
  | enroll (methods : NameSet) : Change app s { s with passport := s.passport.enroll methods }
  /-- The challenge is used up. -/
  | useChallenge :
      Change app s { s with passport := { s.passport with challenge := s.passport.challenge.used } }
  /-- A TAN response is stored. -/
  | storeResponse (response : PropertySet) :
      Change app s
        { s with
          passport :=
            { s.passport with challenge := s.passport.challenge.storeResponse response } }

/-- A session comes from another one by elementary changes. -/
def Evolves (app : Application) : Session → Session → Prop := Relation.ReflTransGen (Change app)

end Session

/-- The routine of a passport consists of elementary changes. -/
theorem routine_evolves (app : Application) : Routine (Session.Evolves app) where
  refl _ := .refl
  trans h h' := h.trans h'
  call _ {c} _ := .single (.call c)
  lookUp _ code := .single (.lookUp code)
  takeMethod _ id auto := .single (.takeMethod id auto)
  enroll _ methods := .single (.enroll methods)

/-- An effect does nothing but elementary changes. -/
def Evolving (app : Application) {α : Type} (x : Effect α) : Prop :=
  ∀ s, Session.Evolves app s (perform x s).2

namespace Evolving

variable {app : Application} {α β : Type}

/-! ### Sequences of steps -/

theorem pure (a : α) : Evolving app (Pure.pure a) := (routine_evolves app).pure a

theorem bind {x : Effect α} {f : α → Effect β} (hx : Evolving app x)
    (hf : ∀ a, Evolving app (f a)) : Evolving app (x >>= f) := (routine_evolves app).bind hx hf

/-- An action evolves the session if its parts do; it may end after the first one. -/
theorem bind_action {x : Action α} {f : α → Action β} (hx : Evolving app x.run)
    (hf : ∀ a, Evolving app (f a).run) : Evolving app (x >>= f).run :=
  (routine_evolves app).bind_action hx hf

theorem lift {x : Effect α} (hx : Evolving app x) : Evolving app (liftM x : Action α).run :=
  Within.lift hx

theorem throw (e : Error) : Evolving app (throw e : Action α).run := (routine_evolves app).throw e

theorem getPassport : Evolving app Session.getPassport := (routine_evolves app).getPassport

theorem call (c : Call) : Evolving app (Session.call c) := fun _ => .single (.call c)

theorem ask (c : Call) : Evolving app (Session.ask app c) := fun _ => .single (.call c)

theorem modifyPassport {f : Passport → Passport}
    (hf : ∀ s : Session, s.Change app { s with passport := f s.passport }) :
    Evolving app (Session.modifyPassport f) := fun s => .single (hf s)

end Evolving

namespace Passport

variable (app : Application)

/-! ### Signatures -/

/-- A PIN that is not empty is kept as soon as the user has given it. -/
theorem evolving_obtainPin : Evolving app (obtainPin app).run := by
  intro s
  simp only [perform_run, obtainPin, exec_bind, exec_lift, Session.perform_getPassport]
  cases s.passport.pin with
  | some pin => exact .refl
  | none =>
    simp only [exec_bind, exec_lift, Session.perform_ask]
    split
    case isTrue => exact .single (.call .requestPin)
    case isFalse hne => exact .single (.obtainPin fun hempty => hne (String.isEmpty_iff.mpr hempty))

theorem evolving_obtainTan (prompt : String) (flicker : Option String) :
    Evolving app (obtainTan app prompt flicker).run := by
  refine .bind_action (.lift (.ask _)) fun tan => ?_
  split
  · exact .bind_action (.throw _) fun _ => .pure _
  · exact .pure _

theorem evolving_oneStepTan (tan : String) (codes : List String) :
    Evolving app (oneStepTan app tan codes).run := by
  induction codes generalizing tan with
  | nil => exact .pure _
  | cons code codes ih =>
    refine .bind_action (.lift ((routine_evolves app).lookUpRequirement code)) fun requirement => ?_
    dsimp only
    split
    · exact .bind_action (evolving_obtainTan app _ _) fun tan => ih tan
    · exact ih tan

theorem evolving_twoStepTan : Evolving app (twoStepTan app).run := by
  refine .bind_action ((routine_evolves app).currentMethodInfo app) fun method => ?_
  refine .bind_action (.lift .getPassport) fun p => ?_
  refine .bind_action (.lift (.modifyPassport fun _ => .useChallenge)) fun _ => ?_
  split
  · exact .pure _
  · exact evolving_obtainTan app _ _

theorem evolving_signWith (message : List UInt8) (pin : String) :
    Evolving app (signWith app message pin).run := by
  refine .bind_action ((routine_evolves app).currentMethod app false) fun id => ?_
  dsimp only
  split
  · exact .bind_action (evolving_oneStepTan app _ _) fun tan => .pure _
  · exact .bind_action (evolving_twoStepTan app) fun tan => .pure _

/-- **Signatures.** Signing a message evolves the session. -/
theorem evolving_sign (message : List UInt8) : Evolving app (sign app message).run :=
  .bind_action (evolving_obtainPin app) fun pin => evolving_signWith app message pin

/-! ### The reaction to a reply -/

theorem evolving_forgetRefusedPin (c : Context) : Evolving app (forgetRefusedPin c) := by
  unfold forgetRefusedPin
  split
  · exact .bind (.modifyPassport fun _ => .forgetPin) fun _ => .call _
  · exact .pure _

theorem evolving_receiveChallenge (c : Context) : Evolving app (receiveChallenge c) := by
  unfold receiveChallenge
  split
  · exact .pure _
  · refine .bind .getPassport fun p => ?_
    split
    · exact .pure _
    · split
      case h_1 =>
        split
        · exact .pure _
        · split
          · exact .pure _
          · dsimp only
            -- only here, at the first step with a response, does the passport change
            split
            · exact .pure _
            · exact .bind (.modifyPassport fun _ => .storeResponse _) fun _ => .pure _
      case h_2 => exact .pure _

/-- What the passport does about a reply once a refused PIN has been forgotten. -/
def reactFurther (app : Application) (c : Context) : Action Context := do
  let c ← checkAllowedMethods app c
  reportChangedIds c
  receiveChallenge c

theorem evolving_reactFurther (c : Context) : Evolving app (reactFurther app c).run := by
  refine .bind_action ((routine_evolves app).checkAllowedMethods app c) fun c => ?_
  refine .bind_action (.lift ((routine_evolves app).reportChangedIds c)) fun _ => ?_
  exact .lift (evolving_receiveChallenge app c)

theorem evolving_react (c : Context) : Evolving app (react app c).run :=
  .bind_action (.lift (evolving_forgetRefusedPin app c)) fun _ => evolving_reactFurther app c

/-! ### Events -/

/-- **Events.** Handling an event evolves the session. -/
theorem evolving_handle (e : Event) (c : Context) : Evolving app (handle app e c) := by
  cases e with
  | messageCreated => exact (routine_evolves app).messageCreated app c
  | messageSent => exact (routine_evolves app).unlessFailing c (evolving_react app c)
  | jobsCreated => exact (routine_evolves app).jobsCreated app c

end Passport

end TanDialog
