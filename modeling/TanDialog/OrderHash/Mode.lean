import TanDialog.OrderHash.Ripemd160
import TanDialog.OrderHash.Sha1

/-!
# Order hash modes

The bank chooses the hash by which a request of variant one announces its order.
-/

namespace TanDialog

/-- The hash of an order. -/
inductive HashMode
  | ripemd160
  | sha1
deriving DecidableEq, Repr

namespace HashMode

/-- All modes. -/
def all : List HashMode := [ripemd160, sha1]

/-- The name of a mode. -/
def label : HashMode → String
  | ripemd160 => "Ripemd160"
  | sha1 => "Sha1"

/-- The mode with a code in the bank parameters. -/
def ofCode? (code : String) : Option HashMode :=
  if code = "1" then some ripemd160 else if code = "2" then some sha1 else none

/-- The hash of an encoded segment. -/
def digest : HashMode → List UInt8 → List UInt8
  | ripemd160 => OrderHash.Ripemd160.digest
  | sha1 => OrderHash.Sha1.digest

end HashMode

end TanDialog
