import TanDialog.CommandLine.Run

/-!
# The program on a terminal

Reads the files that a command names, and the lines that the user types as they are asked for.
Since a command depends only on its files and lines, it is run again with one more line whenever a
line has been missing; what has been written before is not written again.
-/

namespace TanDialog.CommandLine.Terminal

/-- The text of a file, if it can be read. -/
def readFile? (name : String) : IO (Option String) := do
  try return some (← IO.FS.readFile name) catch _ => return none

/-- Writes a piece of output. -/
def write (o : Output) : IO Unit := do
  IO.print o.outText
  (← IO.getStdout).flush
  IO.eprint o.errText
  (← IO.getStderr).flush

/-- The pieces up to the prompt with the given number, counted from zero, its own included. -/
def upToPrompt : Nat → List Output → List Output
  | _, [] => []
  | n, o :: rest =>
    if o.isPrompt then
      match n with
      | 0 => [o]
      | n + 1 => o :: upToPrompt n rest
    else o :: upToPrompt n rest

/-- Runs a command, asking for lines as long as some are missing. -/
partial def converse (file? : String → Option String) (o : Options) (lines : List String)
    (written : Nat) : IO Outcome := do
  let outcome := runOptions { file?, lines } o
  match outcome with
  | .refused _ => return outcome
  | .finished output _ =>
    if outcome.questions ≤ lines.length then
      for piece in output.drop written do
        write piece
      return outcome
    else
      let pieces := upToPrompt lines.length output
      for piece in pieces.drop written do
        write piece
      let line ← (← IO.getStdin).getLine
      converse file? o (lines ++ [line]) pieces.length

/-- The text shown when the arguments are refused. -/
def usage : String :=
  "Usage: [--config FILE] [--log-level LEVEL] COMMAND\n\n" ++
  "Commands:\n" ++
  "  methods --bpd FILE [--upd FILE]\n" ++
  "  select --bpd FILE [--enrolled ID]...\n" ++
  "  status --reply FILE\n" ++
  "  flicker [--challenge TEXT] [--hhd-uc TEXT]\n" ++
  "  hash [--mode MODE] SEGMENT\n"

end TanDialog.CommandLine.Terminal

/-- Runs the program with the arguments of the command line. -/
def main (arguments : List String) : IO UInt32 := do
  match TanDialog.CommandLine.Options.read arguments with
  | .error .help =>
    IO.print TanDialog.CommandLine.Terminal.usage
    return 0
  | .error .usage =>
    IO.eprint TanDialog.CommandLine.Terminal.usage
    return 2
  | .ok o =>
    let mut files : List (String × String) := []
    for name in o.files do
      match ← TanDialog.CommandLine.Terminal.readFile? name with
      | some text => files := (name, text) :: files
      | none => pure ()
    let outcome ← TanDialog.CommandLine.Terminal.converse (List.lookup · files) o [] 0
    match outcome.failure? with
    | some failure => IO.eprintln ("Error: " ++ failure.message)
    | none => pure ()
    return outcome.exitCode.toUInt32
