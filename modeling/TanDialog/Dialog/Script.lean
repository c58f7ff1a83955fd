import TanDialog.Dialog.Run
import TanDialog.Segment.Encoding

/-!
# Scripted parties

An application and a bank that follow a script, for trying out dialogs. The application takes its
answers from lists, one after the other, and gives empty answers when a list is used up. The bank
takes its replies from a list; it encodes requests with a fixed header and trailer.
-/

namespace TanDialog

/-- What a scripted application says about challenge classes. -/
inductive ClassScript
  /-- What the table says. -/
  | builtIn
  /-- There is none. -/
  | none
  | fixed (filled : Challenge.Filled)

/-- The answers of a scripted application. -/
structure ApplicationScript where
  pins : List String := []
  tans : List String := []
  selections : List String := []
  media : List String := []
  /-- Whether segments can not be encoded. -/
  encodingFails : Bool := false
  classes : ClassScript := .builtIn

namespace ApplicationScript

/-- The answers to calls like a given one. -/
def answersTo (s : ApplicationScript) : Call → List String
  | .requestPin => s.pins
  | .requestTan .. => s.tans
  | .selectMethod _ => s.selections
  | .requestTanMedia _ => s.media
  | _ => []

/-- Whether two calls take their answers from the same list. -/
def sameKind : Call → Call → Bool
  | .requestPin, .requestPin => true
  | .requestTan .., .requestTan .. => true
  | .selectMethod _, .selectMethod _ => true
  | .requestTanMedia _, .requestTanMedia _ => true
  | _, _ => false

/-- The answer to the newest of some calls. -/
def answer (s : ApplicationScript) : List Call → String
  | [] => ""
  | c :: earlier => (s.answersTo c).getD (earlier.countP (sameKind c)) ""

/-- The application that follows a script. -/
def application (s : ApplicationScript) : Application where
  answer := s.answer
  encodeSegment t :=
    if s.encodingFails then .error .encodingFailed else .ok (Text.utf8 (Segment.ofTask t 1))
  challengeClass t m :=
    match s.classes with
    | .builtIn => Challenge.builtInClass t m
    | .none => .ok none
    | .fixed filled => .ok (some filled)

end ApplicationScript

/-! ### Encoded requests -/

namespace Request

/-- The version of the TAN request at a path, if it is the path of one. -/
def requestVersion? (path : String) : Option String :=
  let mark := BankParameters.requestPathMark.toList
  let version := path.toList.drop mark.length
  if mark.isPrefixOf path.toList && !version.contains '.' then some (String.ofList version)
  else none

/-- The segments of an opening without its TAN requests. -/
def openingSegments : Template → List String
  | .finish => ["HKEND:2:1+0'"]
  | _ => ["HKIDN:2:2+280:12345678+user+0+1'", "HKVVB:3:3+0+0+0+pintan+0.1'"]

/-- The segment of the TAN request at a path, for a number yet to come. -/
def tanSegment? (fields : PropertySet) (path : String) : Option (Nat → String) :=
  (requestVersion? path).map fun version number =>
    Segment.encode Task.tanCode number version
      [(fields.get? (path ++ ".process")).getD "", (fields.get? (path ++ ".ordersegcode")).getD ""]

/-- Numbers segments from `n` on. -/
def numberFrom (n : Nat) (segments : List (Nat → String)) : List String :=
  (segments.zipIdx n).map fun (segment, number) => segment number

/-- The segments between header and trailer, of which the header has the number one. -/
def bodySegments : Request → List String
  | opening template fields =>
    let front := openingSegments template
    front ++ numberFrom (front.length + 2) (fields.keys.filterMap (tanSegment? fields))
  | tasks sent => numberFrom 2 (sent.map Segment.ofTask)

/-- The encoded message of a request. -/
def encode (r : Request) : String :=
  let body := r.bodySegments
  "HNHBK:1:3+000000000000+300+0+1'" ++ String.join body ++
    Segment.encode "HNHBS" (body.length + 2) "1" ["1"]

end Request

/-! ### The bank -/

/-- The course of a scripted bank. -/
structure BankScript where
  replies : List PropertySet := []
  /-- The message that is never answered, counted from zero. -/
  stallAt : Option Nat := none
  /-- The request that is not encoded, counted from zero. -/
  rejectAt : Option Nat := none

namespace BankScript

/-- The bank that follows a script. -/
def bank (s : BankScript) : Bank where
  encode events request :=
    let n := events.countP BankEvent.isEncoding
    if s.rejectAt = some n then .error (.unexpectedRequest n) else .ok (Text.utf8 request.encode)
  send events _ _ :=
    if s.stallAt = some (events.countP BankEvent.isSending) then .stalled
    else
      match s.replies[(events.filterMap BankEvent.reply?).length]? with
      | some data => .replied data
      | none => .failed (.noReply (events.filterMap BankEvent.received?).length)

/-- How many replies are left. -/
def remaining (s : BankScript) (events : List BankEvent) : Nat :=
  s.replies.length - (events.filterMap BankEvent.reply?).length

end BankScript

end TanDialog
