/-!
# Numerals

Readers for unsigned numbers of bounded size, and the hexadecimal writers.

A numeral is a nonempty run of digits, optionally led by one plus sign; any number of leading
zeros is allowed, and the value has to stay below a bound. `read?` is the reader for an arbitrary
base up to sixteen, `decimal?` and `hexadecimal?` are its two uses. `hexText` writes a number
with at least the given number of upper-case digits, `bytesHex` a byte string with two digits
per byte.
-/

namespace TanDialog.Numeral

/-- How many numbers fit into 16 bits. -/
def bound16 : Nat := 65536

/-- How many numbers fit into 32 bits. -/
def bound32 : Nat := 4294967296

/-- How many numbers fit into 64 bits. -/
def bound64 : Nat := 18446744073709551616

/-- The value of a digit in a base up to sixteen. Letters are digits in either case. -/
def digit? (base : Nat) (c : Char) : Option Nat :=
  let value? :=
    if '0' ≤ c ∧ c ≤ '9' then some (c.toNat - '0'.toNat)
    else if 'a' ≤ c ∧ c ≤ 'f' then some (c.toNat - 'a'.toNat + 10)
    else if 'A' ≤ c ∧ c ≤ 'F' then some (c.toNat - 'A'.toNat + 10)
    else none
  value?.filter (· < base)

/-- The number written by a run of digits, continuing from the value read so far. -/
def digitsFrom? (base : Nat) : Nat → List Char → Option Nat
  | value, [] => some value
  | value, c :: cs => (digit? base c).bind fun d => digitsFrom? base (base * value + d) cs

/-- The digits of a numeral: what follows its plus sign, if it has one. -/
def unsignedPart : List Char → List Char
  | '+' :: cs => cs
  | cs => cs

/-- Reads a numeral whose value lies below `bound`. -/
def read? (base bound : Nat) (cs : List Char) : Option Nat :=
  match unsignedPart cs with
  | [] => none
  | ds => (digitsFrom? base 0 ds).filter (· < bound)

/-- Reads a decimal numeral below `bound`. -/
def decimal? (bound : Nat) (cs : List Char) : Option Nat := read? 10 bound cs

/-- Reads a hexadecimal numeral below `bound`. -/
def hexadecimal? (bound : Nat) (cs : List Char) : Option Nat := read? 16 bound cs

/-- A numeral that reads has a value below the bound. -/
theorem read?_lt {base bound n : Nat} {cs : List Char} (h : read? base bound cs = some n) :
    n < bound := by
  unfold read? at h
  split at h
  · cases h
  · simpa using (Option.filter_eq_some_iff.mp h).2

@[simp]
theorem read?_nil (base bound : Nat) : read? base bound [] = none := rfl

/-! ### Writing -/

/-- The upper-case hexadecimal digits of a number, padded with zeros to at least `width`. -/
def hexText (width n : Nat) : List Char :=
  let digits := (Nat.toDigits 16 n).map Char.toUpper
  List.replicate (width - digits.length) '0' ++ digits

/-- Two upper-case hexadecimal digits per byte. -/
def bytesHex (bytes : List UInt8) : List Char := bytes.flatMap fun b => hexText 2 b.toNat

/-- Two lower-case hexadecimal digits per byte. -/
def bytesLowerHex (bytes : List UInt8) : List Char := (bytesHex bytes).map Char.toLower

@[simp]
theorem bytesHex_nil : bytesHex [] = [] := rfl

@[simp]
theorem bytesHex_cons (b : UInt8) (bs : List UInt8) :
    bytesHex (b :: bs) = hexText 2 b.toNat ++ bytesHex bs := rfl

end TanDialog.Numeral
