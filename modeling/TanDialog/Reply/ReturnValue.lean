import TanDialog.Property.Set
import TanDialog.Reply.ReturnCode

/-!
# Return values

A return value is a return code with its text, its parameters and the element it is about; one
that belongs to a segment of the request also names that segment. In a reply a return value lies
below a header path, and the members of a series of values or parameters have numbered headers
(`Path.numbered`). A series ends at its first gap (`leading`).
-/

namespace TanDialog

/-- The values of a function at `start`, `start + 1`, … up to its first gap, at most `limit`. -/
def leading {α : Type} (f : Nat → Option α) (start : Nat) : Nat → List α
  | 0 => []
  | limit + 1 =>
    match f start with
    | some a => a :: leading f (start + 1) limit
    | none => []

/-- A return code with what belongs to it. -/
structure ReturnValue where
  code : String
  text : String
  params : List String
  /-- The data element within the segment. -/
  elementRef : Option String
  /-- The segment of the request. -/
  segmentRef : Option String
deriving DecidableEq

namespace ReturnValue

/-- Reads the return value below a header; there is none without a code. Every parameter has a
path of its own, so there are no more of them than entries. -/
def read? (data : PropertySet) (header : String) (segmentRef : Option String) :
    Option ReturnValue :=
  (data.get? (header ++ ".code")).map fun code =>
    { code
      text := (data.get? (header ++ ".text")).getD ""
      params := leading (fun i => data.get? (Path.numbered (header ++ ".parm") i)) 0 data.size
      elementRef := data.get? (header ++ ".ref")
      segmentRef }

/-- Reads the series of return values below a numbered header, up to its first gap. -/
def readSeries (data : PropertySet) (header : String) (segmentRef : Option String) :
    List ReturnValue :=
  leading (fun i => read? data (Path.numbered header i) segmentRef) 0 data.size

/-- The severity of a return value is that of its code. -/
def severity (rv : ReturnValue) : Severity := .ofCode rv.code

/-- Whether the return value is an error. -/
def isError (rv : ReturnValue) : Bool := rv.severity == .error

/-- Whether the return value is a warning. -/
def isWarning (rv : ReturnValue) : Bool := rv.severity == .warning

/-- The code as a number below 65536, if it is one. -/
def number? (rv : ReturnValue) : Option Nat := Numeral.decimal? Numeral.bound16 rv.code.toList

/-- The known code that a return value carries. -/
def known? (rv : ReturnValue) : Option KnownCode := rv.number?.bind KnownCode.ofNumber?

/-- Whether a return value carries a known code. -/
def carries (rv : ReturnValue) (k : KnownCode) : Bool := rv.number? == some k.number

/-- The text shown for a return value: `[segment/element] code: text`. The bracket stands where
the value has a segment, the second part of it where it has an element too. -/
def display (rv : ReturnValue) : String :=
  let place :=
    match rv.segmentRef, rv.elementRef with
    | some segment, some element => "[" ++ segment ++ "/" ++ element ++ "] "
    | some segment, none => "[" ++ segment ++ "] "
    | none, _ => ""
  place ++ rv.code ++ ": " ++ rv.text

end ReturnValue

end TanDialog
