import TanDialog.CommandLine.Inspect
import TanDialog.Passport.Session
import TanDialog.Property.Lines

/-!
# The console

A command writes lines of its log and talks with the user. Errors of the log and the conversation
go to the error stream, all else to the output stream. The answers of the user are lines of text,
taken one after the other; an answer that is missing is empty.
-/

namespace TanDialog.CommandLine

/-- A piece of output. -/
inductive Output
  /-- On the output stream. -/
  | out (text : String)
  /-- On the error stream. -/
  | err (text : String)
  /-- On the error stream, before an answer is taken. -/
  | prompt (text : String)
deriving DecidableEq

namespace Output

/-- What goes to the output stream. -/
def outText : Output → String
  | out text => text
  | _ => ""

/-- What goes to the error stream. -/
def errText : Output → String
  | err text => text
  | prompt text => text
  | out _ => ""

/-- Whether an answer is taken behind the piece. -/
def isPrompt : Output → Bool
  | prompt _ => true
  | _ => false

end Output

/-- Why a command fails. -/
inductive Failure
  | unreadableFile (name : String)
  | invalidJson (name : String)
  | invalidSettings (name : String)
  | invalidProperty (line : PropertySet.InvalidLine)
  | unknownHashMode (mode : String)
  | engine (e : Error)
deriving DecidableEq

/-- What is wrong, in words. -/
def Failure.message : Failure → String
  | unreadableFile name => "cannot read '" ++ name ++ "'"
  | invalidJson name => "no JSON object of strings in '" ++ name ++ "'"
  | invalidSettings name => "no valid settings in '" ++ name ++ "'"
  | invalidProperty line =>
    "invalid property at line " ++ toString line.number ++ ": '" ++ line.text ++ "'"
  | unknownHashMode mode => "unknown order hash mode: '" ++ mode ++ "'"
  | engine e => e.message

/-! ### The log -/

/-- Which part of the program writes a line of the log. -/
inductive Topic
  | command
  | files
  | catalog
  | selection
  | parameters
  | flicker
  | status

/-- The name of a topic in the log. -/
def Topic.label : Topic → String
  | command => "pintan_cli"
  | files => "pintan_cli::helpers"
  | catalog => "pintan_core::passport::catalog"
  | selection => "pintan_core::passport::select"
  | parameters => "pintan_core::passport::params"
  | flicker => "pintan_core::flicker"
  | status => "pintan_proto::status"

/-- A line of the log. -/
structure Record where
  level : Level
  topic : Topic
  text : String

namespace Record

/-- The text of a line. Debug lines name the thread, which is the first one, and their topic. -/
def line (r : Record) : String :=
  let source := if Level.debug.rank ≤ r.level.rank then "(1) " ++ r.topic.label ++ ": " else ""
  "[" ++ r.level.label ++ "] " ++ source ++ r.text ++ "\n"

/-- The output of a line. -/
def output (r : Record) : Output := if r.level = .error then .err r.line else .out r.line

end Record

/-! ### Conversations -/

/-- Whether a call is answered by the user. -/
def isQuestion : Call → Bool
  | .requestPin | .requestTan .. | .selectMethod _ | .requestTanMedia _ => true
  | _ => false

/-- How a call is put to the user. -/
def conversation : Call → List Output
  | .requestPin => [.prompt "PIN: "]
  | .requestTan text flicker =>
    (flicker.map fun code => .err ("flicker code: " ++ code ++ "\n")).toList ++
      [.prompt (text ++ ": ")]
  | .selectMethod options =>
    let lines := (options.toList.splitOn '|').map fun o => .err ("  " ++ String.ofList o ++ "\n")
    .err "Available TAN methods:\n" :: lines ++ [.prompt "TAN method: "]
  | .requestTanMedia default => [.prompt ("TAN media [" ++ default ++ "]: ")]
  | .wrongPin => [.err "PIN rejected by bank\n"]
  | .userIdChanged ids => [.err ("User / customer id changed: " ++ ids ++ "\n")]
  | .encodeSegment _ | .challengeClass .. => []

/-- The answer to the newest of some calls, if the user types the given lines. An empty answer
takes the medium that has been offered. -/
def typedAnswer (lines : List String) : List Call → String
  | [] => ""
  | c :: earlier =>
    let typed := Text.trimString (lines.getD (earlier.countP isQuestion) "")
    match c with
    | .requestTanMedia default => if typed.isEmpty then default else typed
    | _ => typed

/-- The application at a console where the user types the given lines. It can not encode. -/
def typing (lines : List String) : Application where
  answer := typedAnswer lines
  encodeSegment _ := .error .encodingFailed
  challengeClass := Challenge.builtInClass

end TanDialog.CommandLine
