import TanDialog.OrderHash.Block

/-!
# RIPEMD-160

Each block drives two lines of eighty steps over the same state. The lines take the words in
different orders, rotate by different amounts and mix with the same five functions in opposite
order; their results are added crosswise to the state.
-/

namespace TanDialog.OrderHash.Ripemd160

/-- The parameters of one line of steps. -/
structure Line where
  /-- Which word of the block each step takes. -/
  order : List Nat
  /-- By how much each step rotates. -/
  rotations : List UInt32
  /-- The constants of the five rounds. -/
  constants : List UInt32
  /-- Which mixing function each of the five rounds uses. -/
  functions : List Nat

/-- The left line. -/
def left : Line where
  order :=
    [0, 1, 2, 3, 4, 5, 6, 7, 8, 9, 10, 11, 12, 13, 14, 15,
     7, 4, 13, 1, 10, 6, 15, 3, 12, 0, 9, 5, 2, 14, 11, 8,
     3, 10, 14, 4, 9, 15, 8, 1, 2, 7, 0, 6, 13, 11, 5, 12,
     1, 9, 11, 10, 0, 8, 12, 4, 13, 3, 7, 15, 14, 5, 6, 2,
     4, 0, 5, 9, 7, 12, 2, 10, 14, 1, 3, 8, 11, 6, 15, 13]
  rotations :=
    [11, 14, 15, 12, 5, 8, 7, 9, 11, 13, 14, 15, 6, 7, 9, 8,
     7, 6, 8, 13, 11, 9, 7, 15, 7, 12, 15, 9, 11, 7, 13, 12,
     11, 13, 6, 7, 14, 9, 13, 15, 14, 8, 13, 6, 5, 12, 7, 5,
     11, 12, 14, 15, 14, 15, 9, 8, 9, 14, 5, 6, 8, 6, 5, 12,
     9, 15, 5, 11, 6, 8, 13, 12, 5, 12, 13, 14, 11, 8, 5, 6]
  constants := [0x00000000, 0x5a827999, 0x6ed9eba1, 0x8f1bbcdc, 0xa953fd4e]
  functions := [0, 1, 2, 3, 4]

/-- The right line. -/
def right : Line where
  order :=
    [5, 14, 7, 0, 9, 2, 11, 4, 13, 6, 15, 8, 1, 10, 3, 12,
     6, 11, 3, 7, 0, 13, 5, 10, 14, 15, 8, 12, 4, 9, 1, 2,
     15, 5, 1, 3, 7, 14, 6, 9, 11, 8, 12, 2, 10, 0, 4, 13,
     8, 6, 4, 1, 3, 11, 15, 0, 5, 12, 2, 13, 9, 7, 10, 14,
     12, 15, 10, 4, 1, 5, 8, 7, 6, 2, 13, 14, 0, 3, 9, 11]
  rotations :=
    [8, 9, 9, 11, 13, 15, 15, 5, 7, 7, 8, 11, 14, 14, 12, 6,
     9, 13, 15, 7, 12, 8, 9, 11, 7, 7, 12, 7, 6, 15, 13, 11,
     9, 7, 15, 11, 8, 6, 6, 14, 12, 13, 5, 14, 13, 13, 7, 5,
     15, 5, 8, 11, 14, 14, 6, 14, 6, 9, 12, 9, 12, 5, 15, 8,
     8, 5, 12, 9, 12, 5, 14, 6, 8, 13, 6, 5, 15, 13, 11, 11]
  constants := [0x50a28be6, 0x5c4dd124, 0x6d703ef3, 0x7a6d76e9, 0x00000000]
  functions := [4, 3, 2, 1, 0]

/-- The five mixing functions. -/
def mix (function : Nat) (b c d : UInt32) : UInt32 :=
  match function with
  | 0 => b ^^^ c ^^^ d
  | 1 => b &&& c ||| ~~~b &&& d
  | 2 => (b ||| ~~~c) ^^^ d
  | 3 => b &&& d ||| c &&& ~~~d
  | _ => b ^^^ (c ||| ~~~d)

/-- One step of a line, with the word it takes, its rotation and its number. -/
def step (line : Line) (block : List UInt32) (h : Chain) (s : (Nat × UInt32) × Nat) : Chain :=
  let round := s.2 / 16
  let f := mix (line.functions.getD round 0) h.b h.c h.d
  let sum := h.a + f + block.getD s.1.1 0 + line.constants.getD round 0
  ⟨h.e, rotateLeft sum s.1.2 + h.e, h.b, rotateLeft h.c 10, h.d⟩

/-- The eighty steps of a line. -/
def run (line : Line) (block : List UInt32) (h : Chain) : Chain :=
  (line.order.zip line.rotations).zipIdx.foldl (step line block) h

/-- Takes in a block. -/
def compress (h : Chain) (block : List UInt32) : Chain :=
  let l := run left block h
  let r := run right block h
  ⟨h.b + l.c + r.d, h.c + l.d + r.e, h.d + l.e + r.a, h.e + l.a + r.b, h.a + l.b + r.c⟩

/-- The hash of a message. -/
def digest (message : List UInt8) : List UInt8 :=
  ((messageBlocks .leastSignificantFirst message).foldl compress .initial).bytes
    .leastSignificantFirst

end TanDialog.OrderHash.Ripemd160
