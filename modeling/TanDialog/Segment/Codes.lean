import TanDialog.Text.Bytes
import TanDialog.Text.Numeral

/-!
# The segment codes of a message

An encoded message is a row of segments. A segment starts with its code and a colon and ends with
an apostrophe. A question mark takes away the meaning of the byte behind it, and a binary block
`@n@` that of the `n` bytes behind it; `endOfSegment` and `segmentStarts` walk over the bytes with
a count of those that are still to be passed over unread.

The code of a segment is what stands between its start and the next colon, so that a segment
without a colon takes what follows it into its code.
-/

namespace TanDialog.Segment

/-- Ends a segment. -/
def terminator : UInt8 := '\''.toUInt8

/-- Takes away the meaning of the next byte. -/
def escape : UInt8 := '?'.toUInt8

/-- Encloses the length of a binary block. -/
def binaryMark : UInt8 := '@'.toUInt8

/-- Ends the code of a segment. -/
def codeMark : UInt8 := ':'.toUInt8

/-- The bytes to pass over behind a binary mark: the length, the closing mark and the binary data.
None where no length below 2^64 and no closing mark follow. -/
def binaryExtent (rest : List UInt8) : Nat :=
  let digits := rest.takeWhile (· ≠ binaryMark)
  if digits.length < rest.length then
    match Numeral.decimal? Numeral.bound64 (digits.map fun b => Char.ofNat b.toNat) with
    | some n => digits.length + 1 + n
    | none => 0
  else 0

/-- How many bytes a byte with special meaning takes with it. -/
def extent (b : UInt8) (rest : List UInt8) : Nat :=
  if b = escape then 1 else if b = binaryMark then binaryExtent rest else 0

/-- Where a walk over a message stands. -/
inductive Position
  /-- At the first byte of a segment. -/
  | start
  /-- Within a segment, with a number of bytes to be passed over unread. -/
  | within (unread : Nat)

/-- The position behind a byte. The first byte of a segment has no special meaning, unless it ends
the segment. -/
def Position.next (p : Position) (b : UInt8) (rest : List UInt8) : Position :=
  match p with
  | start => if b = terminator then start else within 0
  | within (n + 1) => within n
  | within 0 => if b = terminator then start else within (extent b rest)

/-- The rests of a message from the starts of its segments on. -/
def segmentStarts : Position → List UInt8 → List (List UInt8)
  | _, [] => []
  | p, b :: rest =>
    match p with
    | .start => (b :: rest) :: segmentStarts (p.next b rest) rest
    | .within _ => segmentStarts (p.next b rest) rest

/-- The bytes before the first colon. -/
def codeBytes? (bytes : List UInt8) : Option (List UInt8) :=
  if bytes.contains codeMark then some (bytes.takeWhile (· ≠ codeMark)) else none

/-- The segment codes of a message, in order. -/
def codes (message : List UInt8) : List String :=
  ((segmentStarts .start message).filterMap codeBytes?).map Text.decodeLossy

end TanDialog.Segment
