import TanDialog.Flicker.Code
import TanDialog.Flicker.Inline

/-!
# Reading challenge payloads

A payload is read from the front: its length, the length of the start code with two flags, the
control bytes, the start code, and up to three data elements with a decimal length each. Every
part fails if the text ends early, and a length that is no number is an error of its own. Only
ASCII payloads are read. `Code.read?` tries the later format first.
-/

namespace TanDialog.Flicker

/-- Why a payload can not be read. -/
inductive Error
  /-- The text ends within a part. -/
  | truncated
  /-- A length is no number. -/
  | invalidLength
  /-- The declared length is not that of the payload. -/
  | lengthMismatch
  /-- There is a character outside ASCII. -/
  | nonAscii
deriving DecidableEq, Repr

/-- What is wrong, in words. -/
def Error.message : Error → String
  | truncated => "payload truncated"
  | invalidLength => "invalid length field"
  | lengthMismatch => "length mismatch"
  | nonAscii => "non-ascii payload"

/-- A reader of the front of a text. -/
abbrev Reader := StateT (List Char) (Except Error)

namespace Reader

/-- Reads `n` characters. -/
def take (n : Nat) : Reader (List Char) := fun text =>
  if text.length < n then .error .truncated else .ok (text.take n, text.drop n)

/-- Reads `n` characters as a number. -/
def number (read? : List Char → Option Nat) (n : Nat) : Reader Nat := do
  match read? (← take n) with
  | some value => pure value
  | none => throw .invalidLength

/-- Reads a byte of two hexadecimal digits. -/
def hexByte : Reader Nat := number (Numeral.hexadecimal? 256) 2

/-- Whether nothing is left. -/
def atEnd : Reader Bool := do return (← get).isEmpty

/-- Reads control bytes, at most the given number: the high bit of a byte says that another one
follows. -/
def controlBytes : Nat → Reader (List UInt8)
  | 0 => pure []
  | limit + 1 => do
    let b ← hexByte
    let more ← if 128 ≤ b then controlBytes limit else pure []
    return UInt8.ofNat b :: more

/-- Reads a data element: a length of two decimal digits, of which the six low bits count, and as
many characters. -/
def element : Reader (List Char) := do
  let length ← number (Numeral.decimal? 256) 2
  take (length % 64)

/-- Reads data elements until nothing is left, at most the given number. -/
def elements : Nat → Reader (List (List Char))
  | 0 => pure []
  | limit + 1 => do
    if ← atEnd then return []
    let data ← element
    return data :: (← elements limit)

/-- The most control bytes that follow a start length. -/
def maxControlBytes : Nat := 10

/-- The most data elements. -/
def maxElements : Nat := 3

/-- Reads a whole payload. -/
def code (format : Format) : Reader Code := do
  let length ← number (Numeral.decimal? Numeral.bound64) format.lengthDigits
  if length ≠ (← get).length then throw .lengthMismatch
  let startLength ← hexByte
  let controlBytes ←
    if format = .hhd14 ∧ 128 ≤ startLength then controlBytes maxControlBytes else pure []
  let startCode ← take (startLength % 64)
  let elements ← elements maxElements
  return { format, length, controlBytes, startCode, elements, rest := ← get }

end Reader

namespace Code

/-- Reads the payload of a text in a given format. -/
def readAs (format : Format) (text : List Char) : Except Error Code :=
  let payload := clean text
  if payload.all (·.toNat < 128) then (Reader.code format |>.run payload).map Prod.fst
  else .error .nonAscii

/-- Reads the payload of a text: in the later format, or else in the earlier one. -/
def read (text : List Char) : Except Error Code :=
  match readAs .hhd14 text with
  | .ok code => .ok code
  | .error _ => readAs .hhd13 text

end Code

/-! ### The code to be shown for a challenge -/

/-- What came of a text that may hold a payload. -/
inductive Attempt
  /-- There is no text, or a blank one. -/
  | absent
  | unreadable (error : Error)
  | shown (code : String)

/-- Tries a text. -/
def attempt (text : Option String) : Attempt :=
  match text.filter (!Text.isBlankString ·) with
  | none => .absent
  | some text =>
    match Code.read text.toList with
    | .ok code => .shown (String.ofList code.render)
    | .error e => .unreadable e

/-- The code that an attempt shows. -/
def Attempt.shown? : Attempt → Option String
  | .shown code => some code
  | _ => none

/-- The flicker code for a challenge: that of the payload of its own, or else that of the payload
within the challenge text. -/
def decode (payload challenge : Option String) : Option String :=
  match (attempt payload).shown? with
  | some code => some code
  | none => (attempt challenge).shown?

end TanDialog.Flicker
