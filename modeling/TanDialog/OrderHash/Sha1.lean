import TanDialog.OrderHash.Block

/-!
# SHA-1

Each block is stretched from sixteen to eighty words; every word drives one step on the state.
-/

namespace TanDialog.OrderHash.Sha1

/-- The next `n` words behind a window of sixteen. -/
def expand : Nat → List UInt32 → List UInt32
  | 0, _ => []
  | n + 1, window =>
    let w := rotateLeft
      (window.getD 13 0 ^^^ window.getD 8 0 ^^^ window.getD 2 0 ^^^ window.getD 0 0) 1
    w :: expand n (window.drop 1 ++ [w])

/-- The eighty words of a block. -/
def schedule (block : List UInt32) : List UInt32 := block ++ expand 64 block

/-- The mixing function of a step and its constant. -/
def mix (step : Nat) (b c d : UInt32) : UInt32 × UInt32 :=
  if step < 20 then (b &&& c ||| ~~~b &&& d, 0x5a827999)
  else if step < 40 then (b ^^^ c ^^^ d, 0x6ed9eba1)
  else if step < 60 then (b &&& c ||| b &&& d ||| c &&& d, 0x8f1bbcdc)
  else (b ^^^ c ^^^ d, 0xca62c1d6)

/-- One step, with its word and number. -/
def step (h : Chain) (word : UInt32 × Nat) : Chain :=
  let (f, k) := mix word.2 h.b h.c h.d
  ⟨rotateLeft h.a 5 + f + h.e + k + word.1, h.a, rotateLeft h.b 30, h.c, h.d⟩

/-- Takes in a block. -/
def compress (h : Chain) (block : List UInt32) : Chain :=
  let g := (schedule block).zipIdx.foldl step h
  ⟨h.a + g.a, h.b + g.b, h.c + g.c, h.d + g.d, h.e + g.e⟩

/-- The hash of a message. -/
def digest (message : List UInt8) : List UInt8 :=
  ((messageBlocks .mostSignificantFirst message).foldl compress .initial).bytes
    .mostSignificantFirst

end TanDialog.OrderHash.Sha1
