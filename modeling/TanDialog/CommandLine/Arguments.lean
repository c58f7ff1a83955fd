/-!
# Arguments of the command line

The command line names a command and its options. An option takes its value from the next argument
or from behind an equals sign; an argument that starts with a hyphen is never taken as a value.
Everything behind `--` is taken as it is. `Options.read` reads the arguments from left to right.
-/

namespace TanDialog.CommandLine

/-- How grave a line of the log is. -/
inductive Level
  | error
  | warn
  | info
  | debug
  | trace
deriving DecidableEq, Repr

namespace Level

/-- The name of a level in the log. -/
def label : Level → String
  | error => "ERROR"
  | warn => "WARN"
  | info => "INFO"
  | debug => "DEBUG"
  | trace => "TRACE"

/-- The rank of a level, from the gravest on. -/
def rank : Level → Nat
  | error => 1
  | warn => 2
  | info => 3
  | debug => 4
  | trace => 5

/-- All levels. -/
def all : List Level := [error, warn, info, debug, trace]

end Level

/-- Which lines of the log are shown: those up to the given rank. -/
structure Verbosity where
  rank : Nat
deriving DecidableEq

namespace Verbosity

/-- What is shown unless something else is asked for. -/
def default : Verbosity := ⟨Level.info.rank⟩

/-- Whether lines of a level are shown. -/
def shows (v : Verbosity) (l : Level) : Bool := l.rank ≤ v.rank

/-- The verbosity with a name, in upper or lower case: that of a level, or `off`. -/
def ofName? (name : String) : Option Verbosity :=
  let name := name.toUpper
  if name = "OFF" then some ⟨0⟩
  else (Level.all.find? (·.label == name)).map fun l => ⟨l.rank⟩

end Verbosity

/-- What is to be done. -/
inductive Command
  /-- Lists the methods declared in bank parameters. -/
  | methods (bpd : String) (upd : Option String)
  /-- Selects a method. -/
  | select (bpd : String) (enrolled : List String)
  /-- Shows the return values of a reply. -/
  | status (reply : String)
  /-- Shows the flicker code for a challenge. -/
  | flicker (challenge hhdUc : Option String)
  /-- Shows the hash of an encoded segment. -/
  | hash (mode segment : String)
deriving DecidableEq

/-- What the command line asks for. -/
structure Options where
  /-- The file with the settings. -/
  config : Option String := none
  verbosity : Verbosity := .default
  command : Command

/-- Why no command is carried out. -/
inductive Refusal
  /-- Help has been asked for. -/
  | help
  /-- The arguments make no sense. -/
  | usage
deriving DecidableEq, Repr

/-! ### Scanning -/

/-- What a list of arguments may hold. -/
structure Grammar where
  /-- The options that may be given once. -/
  single : List String := []
  /-- The options that may be given more than once. -/
  repeated : List String := []
  /-- How many arguments may stand alone. -/
  positionals : Nat := 0
  /-- Whether an argument that stands alone ends the options, as a command does. -/
  endsAtPositional : Bool := false

/-- What a list of arguments holds. -/
structure Scanned where
  /-- The options with their values, in order. -/
  options : List (String × String) := []
  /-- The arguments that stand alone, in order. -/
  positionals : List String := []
  /-- The arguments that have not been looked at. -/
  rest : List String := []

namespace Scanned

/-- The value of an option. -/
def value? (s : Scanned) (name : String) : Option String := s.options.lookup name

/-- The values of an option that may be given more than once. -/
def values (s : Scanned) (name : String) : List String :=
  (s.options.filter (·.1 == name)).map Prod.snd

end Scanned

/-- Whether an argument can not be a value: it starts with a hyphen and goes on. -/
def isFlag (argument : String) : Bool :=
  argument.toList.head? == some '-' && argument.length ≠ 1

/-- The name of a long option and the value behind its equals sign, if there is one. -/
def splitOption (argument : String) : String × Option String :=
  let cs := argument.toList.drop 2
  let name := String.ofList (cs.takeWhile (· ≠ '='))
  if cs.contains '=' then (name, some (String.ofList ((cs.dropWhile (· ≠ '=')).drop 1)))
  else (name, none)

/-- Adds an option with its value to what has been scanned before. -/
def Grammar.addOption (g : Grammar) (s : Scanned) (name value : String) : Except Refusal Scanned :=
  if g.repeated.contains name then .ok { s with options := s.options ++ [(name, value)] }
  else if g.single.contains name && (s.value? name).isNone then
    .ok { s with options := s.options ++ [(name, value)] }
  else .error .usage

/-- Adds an argument that stands alone. -/
def Grammar.addPositional (g : Grammar) (s : Scanned) (argument : String) :
    Except Refusal Scanned :=
  if s.positionals.length < g.positionals then
    .ok { s with positionals := s.positionals ++ [argument] }
  else .error .usage

/-- Scans arguments, `literal` telling whether all of them stand alone. -/
def Grammar.scan (g : Grammar) : Bool → Scanned → List String → Except Refusal Scanned
  | _, s, [] => .ok s
  | true, s, argument :: rest => do
    if g.endsAtPositional then .error .usage
    let s ← g.addPositional s argument
    g.scan true s rest
  | false, s, argument :: rest => do
    if argument = "--" then g.scan true s rest
    else if isFlag argument then
      if argument.toList.take 2 = ['-', '-'] then
        let (name, attached) := splitOption argument
        if name = "help" && attached.isNone then .error .help
        else if !(g.single ++ g.repeated).contains name then .error .usage
        else
          match attached, rest with
          | some value, rest => do
            let s ← g.addOption s name value
            g.scan false s rest
          | none, value :: rest =>
            if isFlag value then .error .usage
            else do
              let s ← g.addOption s name value
              g.scan false s rest
          | none, [] => .error .usage
      else if argument.toList.take 2 = ['-', 'h'] then .error .help
      else .error .usage
    else do
      let s ← g.addPositional s argument
      if g.endsAtPositional then .ok { s with rest } else g.scan false s rest

/-! ### Commands -/

/-- The value of an option that has to be given. -/
def required (s : Scanned) (name : String) : Except Refusal String :=
  match s.value? name with
  | some value => .ok value
  | none => .error .usage

namespace Command

/-- The names of the commands. -/
def names : List String := ["methods", "select", "status", "flicker", "hash"]

/-- Reads the arguments of a command. -/
def read (name : String) (arguments : List String) : Except Refusal Command := do
  let scan (g : Grammar) : Except Refusal Scanned := g.scan false {} arguments
  match name with
  | "methods" =>
    let s ← scan { single := ["bpd", "upd"] }
    return .methods (← required s "bpd") (s.value? "upd")
  | "select" =>
    let s ← scan { single := ["bpd"], repeated := ["enrolled"] }
    return .select (← required s "bpd") (s.values "enrolled")
  | "status" =>
    let s ← scan { single := ["reply"] }
    return .status (← required s "reply")
  | "flicker" =>
    let s ← scan { single := ["challenge", "hhd-uc"] }
    return .flicker (s.value? "challenge") (s.value? "hhd-uc")
  | "hash" =>
    let s ← scan { single := ["mode"], positionals := 1 }
    match s.positionals with
    | [segment] => return .hash ((s.value? "mode").getD "2") segment
    | _ => .error .usage
  | "help" =>
    match arguments with
    | [] => .error .help
    | topic :: _ => .error (if (names ++ ["help"]).contains topic then .help else .usage)
  | _ => .error .usage

/-- The files with properties that a command reads. -/
def files : Command → List String
  | methods bpd upd => bpd :: upd.toList
  | select bpd _ => [bpd]
  | status reply => [reply]
  | _ => []

end Command

namespace Options

/-- The verbosity that has been asked for. -/
def readVerbosity (s : Scanned) : Except Refusal Verbosity :=
  match s.value? "log-level" with
  | none => .ok .default
  | some name =>
    match Verbosity.ofName? name with
    | some v => .ok v
    | none => .error .usage

/-- Reads the arguments of the command line. -/
def read (arguments : List String) : Except Refusal Options := do
  let g : Grammar :=
    { single := ["config", "log-level"], positionals := 1, endsAtPositional := true }
  let s ← g.scan false {} arguments
  let verbosity ← readVerbosity s
  match s.positionals with
  | [name] =>
    return { config := s.value? "config", verbosity, command := ← Command.read name s.rest }
  | _ => .error .usage

/-- The files that are read. -/
def files (o : Options) : List String := o.config.toList ++ o.command.files

end Options

end TanDialog.CommandLine
