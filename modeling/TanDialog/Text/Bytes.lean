/-!
# Text as bytes

Texts are sequences of characters here; messages, wildcard patterns and a few offsets count the
bytes of their UTF-8 form. `utf8` is that form, `dropBytes?` removes a number of bytes from the
front of a text if that does not cut a character, and `decodeLossy` reads any byte string as
text: each maximal part that can not belong to a character becomes one U+FFFD.
-/

namespace TanDialog.Text

/-- The bytes of the UTF-8 form of a text. -/
def utf8 (s : String) : List UInt8 := s.toUTF8.data.toList

/-- Removes exactly `n` bytes from the front; fails where the text is shorter or where a
character would be cut. -/
def dropBytes? : Nat → List Char → Option (List Char)
  | 0, cs => some cs
  | _ + 1, [] => none
  | n + 1, c :: cs => if c.utf8Size ≤ n + 1 then dropBytes? (n + 1 - c.utf8Size) cs else none

@[simp]
theorem dropBytes?_zero (cs : List Char) : dropBytes? 0 cs = some cs := by
  cases cs <;> rfl

/-! ### Lossy decoding -/

/-- A character that has begun: the bits read so far, how many bytes are still missing, and the
range in which the next byte has to lie. -/
structure Pending where
  bits : Nat
  missing : Nat
  low : UInt8
  high : UInt8

/-- The character that stands for undecodable bytes. -/
def replacement : Char := '\ufffd'

/-- What a byte at the start of a character means: the characters it completes and the character
it begins. A byte that can not start a character is replaced. -/
def startByte (b : UInt8) : List Char × Option Pending :=
  if b < 0x80 then ([Char.ofNat b.toNat], none)
  else if 0xc2 ≤ b ∧ b ≤ 0xdf then ([], some ⟨b.toNat - 0xc0, 1, 0x80, 0xbf⟩)
  else if b = 0xe0 then ([], some ⟨0, 2, 0xa0, 0xbf⟩)
  else if b = 0xed then ([], some ⟨0xd, 2, 0x80, 0x9f⟩)
  else if 0xe1 ≤ b ∧ b ≤ 0xef then ([], some ⟨b.toNat - 0xe0, 2, 0x80, 0xbf⟩)
  else if b = 0xf0 then ([], some ⟨0, 3, 0x90, 0xbf⟩)
  else if 0xf1 ≤ b ∧ b ≤ 0xf3 then ([], some ⟨b.toNat - 0xf0, 3, 0x80, 0xbf⟩)
  else if b = 0xf4 then ([], some ⟨4, 3, 0x80, 0x8f⟩)
  else ([replacement], none)

/-- What the next byte of a character that has begun means. A byte outside the expected range
ends the character, which is replaced, and starts a new one. -/
def Pending.next (p : Pending) (b : UInt8) : List Char × Option Pending :=
  if p.low ≤ b ∧ b ≤ p.high then
    let bits := 64 * p.bits + (b.toNat - 0x80)
    if p.missing ≤ 1 then ([Char.ofNat bits], none)
    else ([], some ⟨bits, p.missing - 1, 0x80, 0xbf⟩)
  else
    let (out, pending) := startByte b
    (replacement :: out, pending)

/-- Decodes the bytes that follow a character that may have begun. -/
def decodeFrom : Option Pending → List UInt8 → List Char
  | none, [] => []
  | some _, [] => [replacement]
  | none, b :: bs => (startByte b).1 ++ decodeFrom (startByte b).2 bs
  | some p, b :: bs => (p.next b).1 ++ decodeFrom (p.next b).2 bs

/-- Reads a byte string as text, with U+FFFD for each maximal undecodable part. -/
def decodeLossy (bytes : List UInt8) : String := String.ofList (decodeFrom none bytes)

end TanDialog.Text
