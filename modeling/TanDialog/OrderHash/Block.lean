/-!
# Messages as blocks of words

Both order hashes read a message in blocks of sixteen 32-bit words. The message is closed by one
set bit, filled up with zeros, and ends with its length in bits as eight bytes. The two differ in
the order of the bytes within a word and within that length.
-/

namespace TanDialog.OrderHash

/-- Which byte of a word comes first. -/
inductive ByteOrder
  | mostSignificantFirst
  | leastSignificantFirst

namespace ByteOrder

/-- The bytes of a word. -/
def wordBytes (order : ByteOrder) (w : UInt32) : List UInt8 :=
  let bytes := [w.toUInt8, (w >>> 8).toUInt8, (w >>> 16).toUInt8, (w >>> 24).toUInt8]
  match order with
  | mostSignificantFirst => bytes.reverse
  | leastSignificantFirst => bytes

/-- The bytes of a length. -/
def lengthBytes (order : ByteOrder) (n : UInt64) : List UInt8 :=
  let low := order.wordBytes n.toUInt32
  let high := order.wordBytes (n >>> 32).toUInt32
  match order with
  | mostSignificantFirst => high ++ low
  | leastSignificantFirst => low ++ high

/-- The word made of four bytes. -/
def word (order : ByteOrder) (a b c d : UInt8) : UInt32 :=
  match order with
  | mostSignificantFirst =>
    a.toUInt32 <<< 24 ||| b.toUInt32 <<< 16 ||| c.toUInt32 <<< 8 ||| d.toUInt32
  | leastSignificantFirst =>
    d.toUInt32 <<< 24 ||| c.toUInt32 <<< 16 ||| b.toUInt32 <<< 8 ||| a.toUInt32

/-- The words made of a byte string, four bytes each. -/
def words (order : ByteOrder) : List UInt8 → List UInt32
  | a :: b :: c :: d :: rest => order.word a b c d :: words order rest
  | _ => []

end ByteOrder

/-- The message with its closing bit, zeros and length: a multiple of 64 bytes. -/
def padded (order : ByteOrder) (message : List UInt8) : List UInt8 :=
  let zeros := (119 - message.length % 64) % 64
  message ++ 0x80 :: List.replicate zeros 0 ++
    order.lengthBytes (UInt64.ofNat (8 * message.length))

/-- The first `n` blocks of sixteen words. -/
def blocks : Nat → List UInt32 → List (List UInt32)
  | 0, _ => []
  | n + 1, ws => ws.take 16 :: blocks n (ws.drop 16)

/-- The blocks of a message. -/
def messageBlocks (order : ByteOrder) (message : List UInt8) : List (List UInt32) :=
  let ws := order.words (padded order message)
  blocks (ws.length / 16) ws

/-- Rotates a word to the left. -/
def rotateLeft (w : UInt32) (n : UInt32) : UInt32 := w <<< n ||| w >>> (32 - n)

/-- Five words: the state of either hash. -/
structure Chain where
  a : UInt32
  b : UInt32
  c : UInt32
  d : UInt32
  e : UInt32

namespace Chain

/-- The state before the first block. -/
def initial : Chain := ⟨0x67452301, 0xefcdab89, 0x98badcfe, 0x10325476, 0xc3d2e1f0⟩

/-- The state as bytes. -/
def bytes (order : ByteOrder) (h : Chain) : List UInt8 :=
  [h.a, h.b, h.c, h.d, h.e].flatMap order.wordBytes

end Chain

end TanDialog.OrderHash
