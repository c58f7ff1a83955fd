import TanDialog.Reply.ReturnValue

/-!
# Reply status

The status of an exchange holds the return values of the reply: those of the whole message, and
those of each segment of the request in the order of the blocks in which they come. A block
without return values does not end the blocks; one without a segment reference does.
-/

namespace TanDialog

/-- The return values of a reply, with the reply itself. -/
structure ReplyStatus where
  /-- Return values about the whole message. -/
  global : List ReturnValue
  /-- Return values about segments of the request. -/
  segment : List ReturnValue
  data : PropertySet
deriving DecidableEq

namespace ReplyStatus

/-- The return values of the block with the given index; none where the block is missing. -/
def readBlock? (data : PropertySet) (index : Nat) : Option (List ReturnValue) :=
  let header := Path.numbered "RetSeg" index
  (data.get? (header ++ ".SegHead.ref")).map fun segmentRef =>
    ReturnValue.readSeries data (header ++ ".RetVal") (some segmentRef)

/-- Reads the status of a reply. -/
def ofData (data : PropertySet) : ReplyStatus where
  global := ReturnValue.readSeries data "RetGlob.RetVal" none
  segment := (leading (readBlock? data) 0 data.size).flatten
  data

/-- All return values, those of the message first. -/
def all (s : ReplyStatus) : List ReturnValue := s.global ++ s.segment

/-- Whether the message as a whole met no error. -/
def isOk (s : ReplyStatus) : Bool := !s.global.any ReturnValue.isError

/-- All errors. -/
def errors (s : ReplyStatus) : List ReturnValue := s.all.filter ReturnValue.isError

/-- All warnings. -/
def warnings (s : ReplyStatus) : List ReturnValue := s.all.filter ReturnValue.isWarning

/-- Whether there is an error. -/
def hasErrors (s : ReplyStatus) : Bool := s.all.any ReturnValue.isError

/-- Whether there is a warning. -/
def hasWarnings (s : ReplyStatus) : Bool := s.all.any ReturnValue.isWarning

/-- The first return value with a known code. -/
def find? (s : ReplyStatus) (k : KnownCode) : Option ReturnValue := s.all.find? (·.carries k)

/-- The warnings with a known code. -/
def warningsWith (s : ReplyStatus) (k : KnownCode) : List ReturnValue :=
  s.warnings.filter (·.carries k)

/-- The first error which says that the bank refused the credentials. -/
def authFailure? (s : ReplyStatus) : Option ReturnValue :=
  s.errors.find? fun rv => rv.known?.any KnownCode.isAuthFailure

/-- The errors as text, one per line. -/
def errorText (s : ReplyStatus) : String :=
  String.intercalate "\n" (s.errors.map ReturnValue.display)

end ReplyStatus

end TanDialog
