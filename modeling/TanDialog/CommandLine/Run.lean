import TanDialog.CommandLine.Console
import TanDialog.CommandLine.Settings
import TanDialog.OrderHash.Mode
import TanDialog.Passport.Selection
import TanDialog.Property.Json
import TanDialog.Reply.Status

/-!
# Carrying out commands

The command line inspects bank parameters and replies: it lists and selects methods, shows the
return values of a reply, decodes challenges and computes order hashes. `run` maps arguments,
files and the lines typed by the user to the output and the exit code.
-/

namespace TanDialog.CommandLine

/-- What a command finds around it. -/
structure Environment where
  /-- The text of a file, if it can be read. -/
  file? : String → Option String
  /-- The lines that the user types. -/
  lines : List String

/-- A step of a command: it writes output, newest first, and may fail. -/
abbrev Console := ExceptT Failure (StateM (List Output))

/-- What a command works with. -/
structure Setting where
  environment : Environment
  verbosity : Verbosity

namespace Setting

variable (s : Setting)

/-- Writes output. -/
def write (o : Output) : Console Unit := modify (o :: ·)

/-- Writes a line of the log, if it is to be shown. -/
def log (level : Level) (topic : Topic) (text : String) : Console Unit := do
  if s.verbosity.shows level then
    write (Record.output { level, topic, text })

/-- Writes a line for the user. -/
def say (text : String) : Console Unit := s.log .info .command text

/-! ### Files -/

/-- Reads a file. -/
def readFile (name : String) : Console String := do
  match s.environment.file? name with
  | some text => return text
  | none => throw (.unreadableFile name)

/-- Whether the name of a file ends in `.json`, with something in front of the point. -/
def isJsonName (name : String) : Bool :=
  let file := ((name.toList.splitOn '/').getLastD [])
  let parts := file.splitOn '.'
  parts.getLast? == some "json".toList && parts.length ≠ 1 && parts.dropLast ≠ [[]]

/-- Reads a file of properties. -/
def readProperties (name : String) : Console PropertySet := do
  s.log .debug .files ("Reading data from '" ++ name ++ "'")
  let text ← s.readFile name
  if isJsonName name then
    match PropertySet.Json.read? text with
    | some data => return data
    | none => throw (.invalidJson name)
  else
    match PropertySet.readLines text with
    | .ok data => return data
    | .error line => throw (.invalidProperty line)

/-- Reads the settings, which have their defaults where no file is named. -/
def readConfig : Option String → Console Config
  | none => return {}
  | some name => do
    s.log .debug .files ("Reading config from '" ++ name ++ "'")
    match Config.ofToml? (← s.readFile name) with
    | some config => return config
    | none => throw (.invalidSettings name)

/-! ### Passports -/

/-- The lines of the log about the declarations of methods. -/
def catalogLines (ceiling : Option Nat) (bpd : PropertySet) :
    Catalog → List Declaration → List String
  | _, [] => []
  | c, d :: rest =>
    let segment := "HITANS" ++ toString d.version
    let line :=
      match Catalog.verdict ceiling c d with
      | .aboveCeiling limit =>
        "skipping TAN method " ++ d.id ++ " (" ++ segment ++ " above limit " ++ toString limit ++
          ")"
      | .superseded version =>
        "keeping TAN method " ++ d.id ++ " from HITANS" ++ toString version ++ ", ignoring " ++
          segment
      | .taken => "found TAN method " ++ d.id ++ " (" ++ (d.method bpd).name ++ ") in " ++ segment
    line :: catalogLines ceiling bpd (Catalog.consider ceiling bpd c d) rest

/-- The passport with the bank parameters of a file. -/
def loadPassport (config : Config) (bpd : String) : Console Passport := do
  let data ← s.readProperties bpd
  for line in catalogLines config.maxVersion data ∅ (Declaration.allIn data) do
    s.log .debug .catalog line
  return (Passport.new config).setBankParameters data

/-- Carries out an action on a passport and shows the conversation about it. -/
def carryOut {α : Type} (p : Passport) (action : Action α) :
    Console (Except Error α × Session) := do
  let (result, session) := action.run.run { passport := p }
  for o in session.calls.reverse.flatMap conversation do
    write o
  return (result, session)

/-- The application of the command. -/
def application : Application := typing s.environment.lines

/-- Writes what precedes the selection of a method. -/
def announceSelection (p : Passport) : Console Unit := do
  s.log .debug .selection "(re)checking selected TAN method"
  match p.candidates with
  | [] =>
    if p.fallback.isEmpty then
      s.log .warn .selection "no TAN methods known, defaulting to one-step"
    else
      s.log .info .selection
        ("no allowed TAN methods known, asking user to choose from: " ++
          MethodOption.render p.fallback)
  | _ => return

/-- Writes what came of the selection of a method. -/
def reportSelection (p : Passport) (session : Session) : Console Unit := do
  match p.reselection with
  | .choose options =>
    let answer := s.application.answer session.calls
    if !options.any (·.id == answer) then
      s.log .error .selection ("selected TAN method not supported: " ++ answer)
    else if !p.candidates.isEmpty then
      s.log .debug .selection ("manually selected TAN method " ++ answer)
  | _ => return

/-- Selects a method by an action. -/
def selecting {α : Type} (p : Passport) (action : Action α) :
    Console (Except Error α × Session) := do
  s.announceSelection p
  let (result, session) ← carryOut p action
  s.reportSelection p session
  return (result, session)

/-! ### Commands -/

/-- The line about a method. -/
def methodLine (m : Method) : String :=
  "  " ++ m.id ++ ": " ++ m.name ++ " (HKTAN" ++ toString m.version ++ ", process " ++
    m.variant.label ++ ", " ++ m.inputInfo ++ ")"

/-- Writes why the bank or the method in use is not supported, or that it is. -/
def reportSupport (supported : Bool) (p : Passport) : Console Unit :=
  let id := p.current.getD ""
  if supported then s.log .debug .parameters ("TAN method " ++ id ++ " supported")
  else s.log .error .parameters ("not supported: TAN method " ++ id)

/-- Checks whether a passport is supported. -/
def checkSupport (p : Passport) : Console (Except Error Bool) := do
  let action := Passport.isSupported s.application
  match p.bpd.filter (!·.isEmpty) with
  | none => return (← carryOut p action).1
  | some bpd =>
    if BankParameters.hasPinTan bpd then
      let (result, session) ← s.selecting p action
      match result with
      | .ok supported => s.reportSupport supported session.passport
      | .error _ => pure ()
      return result
    else
      s.log .error .parameters "not supported: no PIN/TAN parameters in BPD"
      return (← carryOut p action).1

/-- Lists the methods of a passport. -/
def listMethods (p : Passport) : Console Unit := do
  s.say "TAN methods:"
  for m in p.catalog.values do
    s.say (methodLine m)
  s.say ("one-step allowed: " ++ toString p.allowsOneStep)
  match ← s.checkSupport p with
  | .ok supported => s.say ("PIN/TAN supported: " ++ toString supported)
  | .error e => s.log .warn .command ("support check failed: " ++ e.message)

/-- Selects a method. -/
def selectMethod (p : Passport) : Console Unit := do
  let (result, session) ← s.selecting p (Passport.currentMethod s.application true)
  match result with
  | .error e => throw (.engine e)
  | .ok id =>
    let how := if session.passport.autoSelected then "automatic" else "user choice"
    s.say ("selected method: " ++ id ++ " (" ++ how ++ ")")

/-- Shows the status of a reply. -/
def showStatus (data : PropertySet) : Console Unit := do
  let status := ReplyStatus.ofData data
  s.log .trace .status
    ("parsed reply status: " ++ toString status.global.length ++ " global, " ++
      toString status.segment.length ++ " segment")
  for rv in status.all do
    s.say (rv.severity.label ++ " " ++ rv.display)
  if status.isOk then s.say "reply ok"
  else s.log .warn .command "reply carries errors"
  match status.authFailure? with
  | some rv => s.log .warn .command ("authentication failed: " ++ rv.display)
  | none => return

/-- Shows the flicker code of a challenge. -/
def showFlicker (challenge payload : Option String) : Console Unit := do
  match Flicker.attempt payload with
  | .shown _ => pure ()
  | .absent => pure ()
  | .unreadable e =>
    s.log .debug .flicker
      ("unable to parse challenge hhd_uc '" ++ payload.getD "" ++ "': " ++ Inspect.flickerError e)
  match (Flicker.attempt payload).shown?, Flicker.attempt challenge with
  | none, .unreadable e =>
    s.log .trace .flicker ("challenge contains no hhd_uc: " ++ Inspect.flickerError e)
  | _, _ => pure ()
  match Flicker.decode payload challenge with
  | some code => s.say ("flicker code: " ++ code)
  | none => s.log .warn .command "no flicker code found"

/-- Shows the hash of a segment. -/
def showHash (mode segment : String) : Console Unit := do
  match HashMode.ofCode? mode with
  | none => throw (.unknownHashMode mode)
  | some m =>
    let digest := Numeral.bytesLowerHex (m.digest (Text.utf8 segment))
    s.say (m.label ++ " order hash: " ++ String.ofList digest)

/-- Carries out a command. -/
def perform (config : Config) : Command → Console Unit
  | .methods bpd upd => do
    let p ← s.loadPassport config bpd
    match upd with
    | none => s.listMethods p
    | some upd =>
      let upd ← s.readProperties upd
      s.listMethods { p with upd := some upd }
  | .select bpd enrolled => do
    let p ← s.loadPassport config bpd
    s.selectMethod { p with enrolled := .ofNames enrolled }
  | .status reply => do s.showStatus (← s.readProperties reply)
  | .flicker challenge payload => s.showFlicker challenge payload
  | .hash mode segment => s.showHash mode segment

end Setting

/-! ### The program -/

/-- What a run of the program leaves behind. -/
inductive Outcome
  /-- The arguments have been refused. -/
  | refused (r : Refusal)
  /-- The command has been carried out or has failed. -/
  | finished (output : List Output) (failure : Option Failure)

/-- Carries out the command that has been asked for. -/
def runOptions (environment : Environment) (o : Options) : Outcome :=
  let s : Setting := { environment, verbosity := o.verbosity }
  let console : Console Unit := do
    let config ← s.readConfig o.config
    s.log .debug .command ("Using config: " ++ Inspect.config config)
    s.log .debug .command ("Executing command: " ++ Inspect.command o.command)
    s.perform config o.command
  let (result, output) := console.run.run []
  match result with
  | .ok () => .finished output.reverse none
  | .error failure => .finished output.reverse (some failure)

/-- The program: reads the arguments and carries out the command. -/
def run (environment : Environment) (arguments : List String) : Outcome :=
  match Options.read arguments with
  | .error r => .refused r
  | .ok o => runOptions environment o

namespace Outcome

/-- The exit code. -/
def exitCode : Outcome → Nat
  | refused .help => 0
  | refused .usage => 2
  | finished _ none => 0
  | finished _ (some _) => 1

/-- The text on the output stream. -/
def outText : Outcome → String
  | refused _ => ""
  | finished output _ => String.join (output.map Output.outText)

/-- The text on the error stream, without the failure. -/
def errText : Outcome → String
  | refused _ => ""
  | finished output _ => String.join (output.map Output.errText)

/-- The failure. -/
def failure? : Outcome → Option Failure
  | refused _ => none
  | finished _ failure => failure

/-- How many answers have been asked for. -/
def questions : Outcome → Nat
  | refused _ => 0
  | finished output _ => output.countP Output.isPrompt

end Outcome

end TanDialog.CommandLine
