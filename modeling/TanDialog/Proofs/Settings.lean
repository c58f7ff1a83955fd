import TanDialog.Proofs.Evolution

/-!
# What dialogs leave alone

The settings of a passport are its configuration, the parameters of bank and user, the catalog, and
whether there are credentials. No change of a session touches them (`Session.Change.settings_eq`),
and so no signature and no event does, whatever the answers of the user are and whether or not the
passport refuses.
-/

namespace TanDialog

/-- The part of a passport that no dialog changes. -/
structure Settings where
  config : Config
  bpd : Option PropertySet
  upd : Option PropertySet
  catalog : Catalog
  anonymous : Bool

/-- The settings of a passport. -/
def Passport.settings (p : Passport) : Settings where
  config := p.config
  bpd := p.bpd
  upd := p.upd
  catalog := p.catalog
  anonymous := p.anonymous

variable {app : Application} {s s' : Session}

theorem Session.Change.settings_eq (h : s.Change app s') :
    s'.passport.settings = s.passport.settings := by
  cases h with
  | lookUp code =>
    dsimp only
    rw [Passport.lookedUp_eq]
    rfl
  | enroll methods =>
    dsimp only
    rw [Passport.enroll_eq]
    rfl
  | _ => rfl

theorem Session.Evolves.settings_eq (h : s.Evolves app s') :
    s'.passport.settings = s.passport.settings := by
  induction h with
  | refl => rfl
  | tail _ hchange ih => exact hchange.settings_eq.trans ih

end TanDialog
