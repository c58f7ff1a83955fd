import TanDialog.CommandLine.Toml
import TanDialog.Passport.Basic

/-!
# Settings files

A settings file is a TOML document with any of the keys `max_tan_segment_version`,
`verify_tan_mode` and `max_restarts`; a setting that is not given has its default, and other keys
do not count. Each key may be given once, and its value has to fit.
-/

namespace TanDialog.Config

/-- The value of a key; an inner none where the key is missing, an outer one where it is given more
than once. -/
def uniqueValue? (fields : List (String × Toml.Value)) (name : String) :
    Option (Option Toml.Value) :=
  match fields.filter (·.1 == name) with
  | [] => some none
  | [(_, v)] => some (some v)
  | _ => none

/-- A whole number below a bound. -/
def natural? (bound : Nat) : Toml.Value → Option Nat
  | .integer n => if 0 ≤ n ∧ n < bound then some n.toNat else none
  | _ => none

/-- A truth value. -/
def boolean? : Toml.Value → Option Bool
  | .boolean b => some b
  | _ => none

/-- Reads a setting by `read?`; it has its default where the key is missing. -/
def setting? {α : Type} (fields : List (String × Toml.Value)) (name : String) (default : α)
    (read? : Toml.Value → Option α) : Option α := do
  match ← uniqueValue? fields name with
  | none => some default
  | some v => read? v

/-- Reads a settings file. -/
def ofToml? (text : String) : Option Config := do
  let fields ← Toml.fields? text
  let default : Config := {}
  let maxVersion ← setting? fields "max_tan_segment_version" default.maxVersion fun v =>
    (natural? Numeral.bound32 v).map some
  let verifyTanMode ← setting? fields "verify_tan_mode" default.verifyTanMode boolean?
  let maxRestarts ← setting? fields "max_restarts" default.maxRestarts (natural? Numeral.bound64)
  return { maxVersion, verifyTanMode, maxRestarts }

end TanDialog.Config
