import TanDialog.Text.Numeral

/-!
# Flicker codes

A flicker code shows an order to a TAN generator: a start code, up to three data elements and, in
the later format, control bytes. `Code.render` gives the digits to be shown. They consist of a
length byte, the start code and the elements with a length byte each, and two check digits.

Elements of nothing but digits are shown as they are, two to the byte and filled up with `F`;
other elements, and empty ones, are shown byte by byte. The length byte of an element tells the
two apart: the later format adds 64, the earlier one writes a leading 1.
-/

namespace TanDialog.Flicker

/-- The format of a challenge payload. -/
inductive Format
  /-- HHD 1.3. -/
  | hhd13
  /-- HHD 1.4. -/
  | hhd14
deriving DecidableEq, Repr

namespace Format

/-- All formats. -/
def all : List Format := [hhd13, hhd14]

/-- The name of a format. -/
def label : Format → String
  | hhd13 => "HHD 1.3"
  | hhd14 => "HHD 1.4"

/-- The number of digits of the leading length. -/
def lengthDigits : Format → Nat
  | hhd13 => 2
  | hhd14 => 3

end Format

/-- The parts of a challenge payload. -/
structure Code where
  format : Format
  /-- The length that the payload declares for itself. -/
  length : Nat
  controlBytes : List UInt8
  startCode : List Char
  /-- The data elements that are present, at most three. -/
  elements : List (List Char)
  /-- What follows three elements. -/
  rest : List Char
deriving DecidableEq

/-- Whether an element is shown as digits. -/
def isNumeric (data : List Char) : Bool := !data.isEmpty && data.all Char.isDigit

/-- The digits shown for an element. -/
def renderData (data : List Char) : List Char :=
  if isNumeric data then if data.length % 2 = 1 then data ++ ['F'] else data
  else data.flatMap fun c => Numeral.hexText 2 c.toNat

/-- The number of bytes shown for an element. -/
def dataBytes (data : List Char) : Nat := (renderData data).length / 2

/-- The length shown in front of an element. -/
def renderLength (format : Format) (data : List Char) : List Char :=
  if isNumeric data then Numeral.hexText 2 (dataBytes data)
  else
    match format with
    | .hhd14 => Numeral.hexText 2 (dataBytes data + 64)
    | .hhd13 => '1' :: Numeral.hexText 1 (dataBytes data)

/-- An element with its length. -/
def renderElement (format : Format) (data : List Char) : List Char :=
  renderLength format data ++ renderData data

namespace Code

/-- Whether the code shows control bytes. -/
def showsControlBytes (c : Code) : Bool := c.format == .hhd14 && !c.controlBytes.isEmpty

/-- The length shown in front of the start code; 128 is added where control bytes follow. -/
def renderStartLength (c : Code) : List Char :=
  let length := renderLength c.format c.startCode
  if c.showsControlBytes then
    Numeral.hexText 2 ((Numeral.hexadecimal? Numeral.bound64 length).getD 0 + 128)
  else length

/-- Everything between the length byte and the check digits. -/
def renderBody (c : Code) : List Char :=
  c.renderStartLength ++ Numeral.bytesHex c.controlBytes ++ renderData c.startCode ++
    c.elements.flatMap (renderElement c.format)

/-- The body led by the number of bytes that follow, the check digits included. -/
def renderPayload (c : Code) : List Char :=
  Numeral.hexText 2 ((c.renderBody.length + 2) / 2) ++ c.renderBody

/-! ### Check digits -/

/-- The value of each digit of a text of digits. -/
def digitValues (digits : List Char) : List Nat := digits.filterMap (Numeral.digit? 16)

/-- The sum of the decimal digits of a number below a hundred. -/
def digitSum (n : Nat) : Nat := n / 10 + n % 10

/-- The weighted sum of a row of digits: every second one counts by the digit sum of its double. -/
def luhnSum : List Nat → Nat
  | [] => 0
  | [a] => a
  | a :: b :: rest => a + digitSum (2 * b) + luhnSum rest

/-- The digits that the first check digit covers: control bytes and data, without the lengths. -/
def checkedDigits (c : Code) : List Char :=
  Numeral.bytesHex c.controlBytes ++ renderData c.startCode ++ c.elements.flatMap renderData

/-- The first check digit. -/
def luhnDigit (c : Code) : List Char :=
  Numeral.hexText 1 ((10 - luhnSum (digitValues c.checkedDigits) % 10) % 10)

/-- The second check digit: all digits of the payload combined bit by bit. -/
def xorDigit (c : Code) : List Char :=
  Numeral.hexText 1 ((digitValues c.renderPayload).foldl (· ^^^ ·) 0)

/-- The digits to be shown. -/
def render (c : Code) : List Char := c.renderPayload ++ c.luhnDigit ++ c.xorDigit

end Code

end TanDialog.Flicker
