/-
Runs of the command line. With a file, the file is one program; without one, each line of the input
is a program, once it is edited, unless it is blank. A log filter that is invalid only gives a
warning. A run breaks off at a log filter or a line that would be cut inside a character, and at a
program that cannot be drawn.
-/
import StackLisp.CommandLine.Directory
import StackLisp.CommandLine.Help
import StackLisp.CommandLine.Line
import StackLisp.CommandLine.LogFilter

namespace StackLisp.CommandLine

open Text (Colour)

/-- What a run starts from. -/
structure Start where
  program : Program
  args : List String
  stdin : String := ""
  /-- The variable of the environment that holds a log filter. -/
  logVariable : Option String := none
deriving DecidableEq, Repr

/-- How a run ends. -/
inductive Exit
  /-- The arguments give no options, and ask for nothing else either. -/
  | usage (error : UsageError)
  /-- The run breaks off. -/
  | aborted
  | finished (code : Nat) (stdout stderr : String)
deriving DecidableEq, Repr

/-- The warning about a log filter, which is empty for a valid one. -/
def filterWarning? (filter : String) : Option String :=
  match LogFilter.check filter with
  | .ok () => some ""
  | .error (.invalid e) =>
    some (Colour.yellow.paintBold "warning" ++ ": ignoring log filter `" ++ filter ++ "`: "
      ++ e.message ++ "\n")
  | .error .torn => none

def readFailure (name : String) (e : FileError) : String :=
  "Error: could not read " ++ name ++ "\n\nCaused by:\n    " ++ e.message ++ "\n"

def runFile (s : Session) (name source : String) (warning : String) : Exit :=
  match s.run name source with
  | none => .aborted
  | some r => .finished (if r.ok then 0 else 1) r.stdout (warning ++ r.stderr)

/-- Runs a line, unless it is blank once it is edited; gives what was printed to either stream. -/
def runLine (s : Session) (line : String) : Option (String × String) := do
  let source ← edited? line
  if Text.trim source = "" then return ("", "")
  let r ← s.run "repl" source
  return (r.stdout, r.stderr)

/-- Runs some lines; gives what was printed to either stream. -/
def runLines (s : Session) : List String → Option (String × String)
  | [] => some ("", "")
  | line :: lines => do
    let first ← runLine s line
    let rest ← runLines s lines
    return (first.1 ++ rest.1, first.2 ++ rest.2)

/-- A run with valid options and a warning about the log filter. -/
def runWith (options : Options) (warning stdin : String)
    (read : String → Except FileError String) : Exit :=
  match options.file with
  | some name =>
    match read name with
    | .error e => .finished 1 "" (warning ++ readFailure name e)
    | .ok source => runFile options.session name source warning
  | none =>
    match runLines options.session (Text.lines stdin) with
    | none => .aborted
    | some (out, err) => .finished 0 out (warning ++ err)

/-- A whole run, given how files are read. -/
def run (start : Start) (read : String → Except FileError String) : Exit :=
  match Options.parse start.args with
  | .error e =>
    match start.program.answer? e with
    | some answer => .finished 0 answer ""
    | none => .usage e
  | .ok options =>
    match filterWarning? (LogFilter.choose options.logLevel start.logVariable) with
    | none => .aborted
    | some warning => runWith options warning start.stdin read

end StackLisp.CommandLine
