import TanDialog.Property.Set
import TanDialog.Text.Numeral

/-!
# Property sets as JSON objects

A property set may also come as a JSON object whose values are all strings. Of members with the
same name the last one counts. Anything else is not read: other values, other texts around the
object, control characters in a string, and escapes that do not make a character.
-/

namespace TanDialog.PropertySet.Json

/-- Drops the white space of JSON. -/
def skipSpace (cs : List Char) : List Char :=
  cs.dropWhile fun c => c == ' ' || c == '\n' || c == '\t' || c == '\r'

/-- What a single letter behind a backslash stands for. -/
def escaped? : Char → Option Char
  | '"' => some '"'
  | '\\' => some '\\'
  | '/' => some '/'
  | 'b' => some '\x08'
  | 'f' => some '\x0c'
  | 'n' => some '\n'
  | 'r' => some '\r'
  | 't' => some '\t'
  | _ => none

/-- The first half of a character beyond the sixteen bits of one escape. -/
def isHighHalf (n : Nat) : Bool := 0xd800 ≤ n && n < 0xdc00

/-- The second half of such a character. -/
def isLowHalf (n : Nat) : Bool := 0xdc00 ≤ n && n < 0xe000

/-- The character made of two halves. -/
def joinHalves (high low : Nat) : Char :=
  Char.ofNat (0x10000 + 0x400 * (high - 0xd800) + (low - 0xdc00))

/-- Reads a string behind its opening quote; `high` is the first half of a character whose second
half has to follow. Answers with the string and what follows its closing quote. -/
def stringBody? : Option Nat → List Char → Option (List Char × List Char)
  | none, '"' :: rest => some ([], rest)
  | high, '\\' :: 'u' :: a :: b :: c :: d :: rest =>
    match high, Numeral.digitsFrom? 16 0 [a, b, c, d] with
    | _, none => none
    | some high, some n =>
      if isLowHalf n then
        (stringBody? none rest).map fun (s, rest) => (joinHalves high n :: s, rest)
      else none
    | none, some n =>
      if isHighHalf n then stringBody? (some n) rest
      else if isLowHalf n then none
      else (stringBody? none rest).map fun (s, rest) => (Char.ofNat n :: s, rest)
  | none, '\\' :: e :: rest =>
    (escaped? e).bind fun c => (stringBody? none rest).map fun (s, rest) => (c :: s, rest)
  | none, c :: rest =>
    if c.toNat < 0x20 then none
    else (stringBody? none rest).map fun (s, rest) => (c :: s, rest)
  | _, _ => none

/-- Reads a string and the white space in front of it. -/
def string? (cs : List Char) : Option (String × List Char) :=
  match skipSpace cs with
  | '"' :: rest => (stringBody? none rest).map fun (s, rest) => (String.ofList s, rest)
  | _ => none

/-- Reads a member of an object and the white space behind it. -/
def member? (cs : List Char) : Option ((String × String) × List Char) := do
  let (name, cs) ← string? cs
  match skipSpace cs with
  | ':' :: cs =>
    let (value, cs) ← string? cs
    return ((name, value), skipSpace cs)
  | _ => none

/-- Reads the members of an object up to the end of the text, at most the given number. -/
def members? : Nat → List Char → Option (List (String × String))
  | 0, _ => none
  | limit + 1, cs => do
    let (m, cs) ← member? cs
    match cs with
    | ',' :: cs => return m :: (← members? limit cs)
    | '}' :: cs => if (skipSpace cs).isEmpty then some [m] else none
    | _ => none

/-- Reads a text that holds one object. -/
def read? (text : String) : Option PropertySet :=
  match skipSpace text.toList with
  | '{' :: cs =>
    match skipSpace cs with
    | '}' :: rest => if (skipSpace rest).isEmpty then some ∅ else none
    | cs => (members? cs.length cs).map Dictionary.ofList
  | _ => none

end TanDialog.PropertySet.Json
