import TanDialog.Proofs.Catalog.Precedence
import TanDialog.Proofs.Dialog.LookUps

/-!
# What always holds of a passport

A passport is set up by its caller (`Setter`), asked for its services (`Service`), and used for
whole runs (`Command`), in any order and with other parties each time; any of this may fail
half-way. What a passport is consistent in (`Passport.Consistent`) is kept by every setter, and by
every elementary change of a session, of which services and runs consist. The verification mode is
switched on by setters only, and the look-ups account for the rest (`balance_runOperations`). So a
verification takes place at most once for each time that the mode comes to be on
(`passport_invariants`).
-/

namespace TanDialog

/-! ### The operations of a passport -/

/-- What a passport can be asked for. -/
inductive Service
  | currentMethod (recheck : Bool)
  | currentMethodInfo
  | isSupported
  | lookUp (code : String)
  | sign (message : List UInt8)
  | patch (queue : MessageQueue)
  | update (event : Event) (context : Context)

namespace Service

/-- The session after a service, whatever comes of it. -/
def session (app : Application) (s : Session) : Service → Session
  | currentMethod recheck => (exec (Passport.currentMethod app recheck) s).2
  | currentMethodInfo => (exec (Passport.currentMethodInfo app) s).2
  | isSupported => (exec (Passport.isSupported app) s).2
  | lookUp code => (perform (Passport.lookUpRequirement code) s).2
  | sign message => (exec (Passport.sign app message) s).2
  | patch queue => (perform (Passport.patch app queue) s).2
  | update event context => (perform (Passport.handle app event context) s).2

/-- The look-ups of a service. -/
def lookUps (app : Application) (s : Session) : Service → List LookUp
  | currentMethod _ | currentMethodInfo | isSupported => []
  | lookUp code => [s.passport.lookUp code]
  | sign message => Passport.signLookUps app message s
  | patch queue => Passport.patchLookUps app queue s
  | update event context => Passport.eventLookUps app event context s

variable (app : Application) (s : Session) (x : Service)

theorem evolves_session : s.Evolves app (x.session app s) := by
  cases x with
  | currentMethod recheck => exact (routine_evolves app).currentMethod app recheck s
  | currentMethodInfo => exact (routine_evolves app).currentMethodInfo app s
  | isSupported => exact (routine_evolves app).isSupported app s
  | lookUp code => exact .single (.lookUp code)
  | sign message => exact Passport.evolving_sign app message s
  | patch queue => exact (routine_evolves app).patch app queue s
  | update event context => exact Passport.evolving_handle app event context s

theorem balances_session : s.Balances (x.lookUps app s) (x.session app s) := by
  cases x with
  | currentMethod recheck => exact basics_balances.currentMethod app recheck s
  | currentMethodInfo => exact basics_balances.currentMethodInfo app s
  | isSupported => exact basics_balances.isSupported app s
  | lookUp code => exact Passport.balances_lookedUp rfl
  | sign message => exact Passport.balances_sign app message s
  | patch queue => exact Passport.balances_patch app queue s
  | update event context => exact Passport.balances_handle app event context s

end Service

/-- One operation on a passport and its connection. -/
inductive Operation
  | set (setter : Setter)
  | serve (service : Service)
  | run (command : Command)

namespace Operation

/-- The connection after an operation, whatever comes of it. -/
def after (parties : Parties) (n : Connection) : Operation → Connection
  | set x => { n with session := { n.session with passport := x.apply n.session.passport } }
  | serve x => { n with session := x.session parties.application n.session }
  | run command => (perform (command.run parties) n).2

/-- The look-ups of an operation. -/
def lookUps (parties : Parties) (n : Connection) : Operation → List LookUp
  | set _ => []
  | serve x => x.lookUps parties.application n.session
  | run command => Dialog.commandLookUps parties n command

/-- Whether an operation sets the verification mode while it is off. -/
def switchesOn (n : Connection) : Operation → Bool
  | set (.verifyTanMode true) => !n.session.passport.verifyTanMode
  | _ => false

end Operation

/-- The connection of a passport before its first dialog. -/
def Connection.fresh (config : Config) : Connection where
  session := { passport := .new config }

/-- The connection after some operations, each with its own parties. -/
def runOperations : List (Parties × Operation) → Connection → Connection
  | [], n => n
  | (parties, op) :: ops, n => runOperations ops (op.after parties n)

/-- The look-ups of some operations. -/
def lookUpsOf : List (Parties × Operation) → Connection → List LookUp
  | [], _ => []
  | (parties, op) :: ops, n => op.lookUps parties n ++ lookUpsOf ops (op.after parties n)

/-- How often some operations switch the verification mode on. -/
def switchOns : List (Parties × Operation) → Connection → Nat
  | [], _ => 0
  | (parties, op) :: ops, n => (op.switchesOn n).toNat + switchOns ops (op.after parties n)

/-! ### Consistency -/

/-- No part of a challenge is stored that is empty. -/
structure Challenge.NoneEmpty (c : Challenge) : Prop where
  text : c.text ≠ some ""
  payload : c.payload ≠ some ""
  orderRef : c.orderRef ≠ some ""

/-- What always holds of a passport with some settings. -/
structure Passport.Consistent (config : Config) (p : Passport) : Prop where
  config_eq : p.config = config
  /-- The catalog is that of the bank parameters in force, and empty without any. -/
  catalog_eq : p.catalog = p.bpd.elim ∅ (Catalog.ofBankParameters config.maxVersion)
  /-- Only a method in use can have been taken without asking. -/
  current_ne_none : p.autoSelected = true → p.current ≠ none
  challenge : p.challenge.NoneEmpty

namespace Challenge

theorem update_ne_empty {old : Option String} (new : Option String) (h : old ≠ some "") :
    update old new ≠ some "" := by
  rw [update]
  split
  case h_1 value hvalue =>
    rintro hempty
    obtain rfl := Option.some.inj hempty
    exact absurd (Option.filter_eq_some_iff.mp hvalue).2 (by decide)
  case h_2 => exact h

theorem NoneEmpty.store {c : Challenge} (h : c.NoneEmpty) (text payload orderRef : Option String) :
    (c.store text payload orderRef).NoneEmpty where
  text := update_ne_empty text h.text
  payload := update_ne_empty payload h.payload
  orderRef := update_ne_empty orderRef h.orderRef

end Challenge

namespace Passport.Consistent

variable {config : Config} {p : Passport} {app : Application} {s s' : Session} {n : Connection}

theorem new (config : Config) : (Passport.new config).Consistent config where
  config_eq := rfl
  catalog_eq := rfl
  current_ne_none := nofun
  challenge := ⟨nofun, nofun, nofun⟩

/-- The catalog is one that is built from bank parameters, if it is not empty. -/
theorem keyed (h : p.Consistent config) : p.catalog.Keyed := by
  rw [h.catalog_eq]
  cases p.bpd with
  | none => exact Catalog.keyed_empty
  | some bpd => exact Catalog.keyed_ofBankParameters config.maxVersion bpd

/-- Methods are held under their own identifiers, in versions that are not above the ceiling. -/
theorem method (h : p.Consistent config) {id : String} {m : Method}
    (hm : p.catalog.get? id = some m) :
    m.id = id ∧ m.attr? Method.versionAttr = some (toString m.version) ∧
      UpTo config.maxVersion m.version := by
  refine ⟨h.keyed.id_eq hm, ?_⟩
  rw [h.catalog_eq] at hm
  cases hbpd : p.bpd with
  | none =>
    rw [hbpd] at hm
    cases hm
  | some bpd =>
    rw [hbpd] at hm
    obtain ⟨d, hd, rfl⟩ := (Catalog.reflects_ofBankParameters config.maxVersion bpd).held id m hm
    exact ⟨Dictionary.get?_insert_self _ _ _, hd.upTo⟩

theorem set (h : p.Consistent config) (x : Setter) : (x.apply p).Consistent config := by
  cases x with
  | bankParameters bpd => exact { h with catalog_eq := h.config_eq ▸ rfl }
  | current id => exact { h with current_ne_none := nofun }
  | resetMethods => exact { h with current_ne_none := nofun }
  | challengeText text => exact { h with challenge := h.challenge.store text none none }
  | challengePayload payload => exact { h with challenge := h.challenge.store none payload none }
  | orderRef orderRef => exact { h with challenge := h.challenge.store none none orderRef }
  | takeChallengeText => exact { h with challenge := { h.challenge with text := nofun } }
  | takeChallengePayload => exact { h with challenge := { h.challenge with payload := nofun } }
  | takeOrderRef => exact { h with challenge := { h.challenge with orderRef := nofun } }
  | _ => exact { h with }

theorem change (h : s.passport.Consistent config) (hchange : s.Change app s') :
    s'.passport.Consistent config := by
  cases hchange with
  | lookUp code =>
    dsimp only
    rw [lookedUp_eq]
    exact { h with }
  | takeMethod id auto => exact { h with current_ne_none := nofun }
  | enroll methods =>
    dsimp only
    rw [enroll_eq]
    exact { h with }
  | useChallenge =>
    exact { h with challenge := { h.challenge with text := nofun, payload := nofun } }
  | storeResponse response => exact { h with challenge := h.challenge.store _ _ _ }
  | _ => exact { h with }

theorem evolves (h : s.passport.Consistent config) (hs : s.Evolves app s') :
    s'.passport.Consistent config := by
  induction hs with
  | refl => exact h
  | tail _ hchange ih => exact ih.change hchange

theorem after (h : n.session.passport.Consistent config) (parties : Parties) (op : Operation) :
    (op.after parties n).session.passport.Consistent config := by
  cases op with
  | set x => exact h.set x
  | serve x => exact h.evolves (x.evolves_session parties.application n.session)
  | run command =>
    have hcourse : Dialog.Course parties n (Dialog.commandRounds parties n command)
        (perform (command.run parties) n).2 :=
      (Dialog.governs_course parties).trace_commandRounds command n
    exact h.evolves hcourse.evolves

theorem runOperations (h : n.session.passport.Consistent config)
    (ops : List (Parties × Operation)) :
    (runOperations ops n).session.passport.Consistent config := by
  induction ops generalizing n with
  | nil => exact h
  | cons op ops ih => exact ih (h.after op.1 op.2)

end Passport.Consistent

/-! ### The verification mode -/

/-- Of the operations only setters switch the mode on, and its end is accounted for. -/
theorem Operation.balance_after (parties : Parties) (op : Operation) (n : Connection) :
    (op.lookUps parties n).countP LookUp.isVerification +
        (op.after parties n).session.passport.verifyTanMode.toNat ≤
      n.session.passport.verifyTanMode.toNat + (op.switchesOn n).toNat := by
  cases op with
  | set x =>
    cases x with
    | verifyTanMode enabled =>
      cases enabled <;> cases hmode : n.session.passport.verifyTanMode <;>
        simp [lookUps, after, switchesOn, Setter.apply, hmode]
    | _ => exact Nat.le_of_eq (Nat.zero_add _)
  | serve x => exact Nat.le_of_eq (x.balances_session parties.application n.session)
  | run command => exact Nat.le_of_eq (Dialog.balances_run parties command n)

theorem balance_runOperations (ops : List (Parties × Operation)) (n : Connection) :
    (lookUpsOf ops n).countP LookUp.isVerification +
        (runOperations ops n).session.passport.verifyTanMode.toNat ≤
      n.session.passport.verifyTanMode.toNat + switchOns ops n := by
  induction ops generalizing n with
  | nil => exact Nat.le_of_eq (Nat.zero_add _)
  | cons op ops ih =>
    obtain ⟨parties, op⟩ := op
    have hfirst := op.balance_after parties n
    have hrest := ih (op.after parties n)
    rw [lookUpsOf, runOperations, switchOns, List.countP_append]
    omega

theorem switchOns_eq_zero {ops : List (Parties × Operation)}
    (h : ∀ x ∈ ops, x.2 ≠ .set (.verifyTanMode true)) (n : Connection) : switchOns ops n = 0 := by
  induction ops generalizing n with
  | nil => rfl
  | cons op ops ih =>
    obtain ⟨parties, op⟩ := op
    rw [List.forall_mem_cons] at h
    have hfirst : op.switchesOn n = false := by
      unfold Operation.switchesOn
      split
      · exact absurd rfl h.1
      · rfl
    rw [switchOns, hfirst, ih h.2]
    rfl

/-- **Invariants of a passport.** Take any sequence of operations on a new passport, with any
parties, whatever comes of each of them. The passport is consistent: its catalog is empty without
bank parameters and otherwise built from those in force under the ceiling of the settings, a method
can only have been taken without asking if there is one in use, and no part of a challenge is empty.
Hence every method of the catalog is held under its own identifier, has its version as an attribute,
and is not above the ceiling. The segment that identifies the user is reported to need a TAN without
being declared at most once for each time that the verification mode comes to be on, and so at most
once if it is never switched on after the beginning. -/
theorem passport_invariants (config : Config) (ops : List (Parties × Operation)) :
    let p := (runOperations ops (.fresh config)).session.passport
    let verifications := (lookUpsOf ops (.fresh config)).countP LookUp.isVerification
    p.Consistent config ∧
    (∀ id m, p.catalog.get? id = some m → m.id = id ∧
      m.attr? Method.versionAttr = some (toString m.version) ∧
      UpTo config.maxVersion m.version) ∧
    verifications ≤ config.verifyTanMode.toNat + switchOns ops (.fresh config) ∧
    ((∀ x ∈ ops, x.2 ≠ .set (.verifyTanMode true)) → verifications ≤ 1) := by
  intro p verifications
  have hconsistent : p.Consistent config :=
    Passport.Consistent.runOperations (n := .fresh config) (.new config) ops
  have hbalance : verifications ≤ config.verifyTanMode.toNat + switchOns ops (.fresh config) :=
    Nat.le_trans (Nat.le_add_right _ _) (balance_runOperations ops (.fresh config))
  refine ⟨hconsistent, fun id m hm => hconsistent.method hm, hbalance, fun hnever => ?_⟩
  rw [switchOns_eq_zero hnever, Nat.add_zero] at hbalance
  exact Nat.le_trans hbalance (Bool.toNat_le _)

/-- The second look-up of the segment is answered as that of any administrative one. -/
example :
    let ops := [.set (.bankParameters ∅), .serve (.lookUp "HKIDN"), .serve (.lookUp "HKIDN")]
    let used := ops.map fun op => (Dialog.steadyParties "" ∅, op)
    (lookUpsOf used (.fresh { verifyTanMode := true })).map (·.answer) =
      [.required, .administrative] := by
  decide

end TanDialog
