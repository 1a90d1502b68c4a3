/-
The command line program. It gathers what a run starts from, leaves the run to `CommandLine.run`,
and prints what comes of it. Standard input is read to its end before any of it is run.
-/
import StackLisp.CommandLine.Run

namespace StackLisp.CommandLine

/-- The variable of the environment that holds a log filter. -/
def logVariableName : String := "RUST_LOG"

def usageText : String :=
  "usage: [FILE] [--emit result|instructions|wat|ast|tokens] [--max-depth N] [--log-level FILTER]"

def program : Program := ⟨"stacklisp", "stack Lisp", "0.1.0"⟩

/-- The reason for which the system does not read a file. -/
def fileErrorOf (e : IO.Error) : FileError :=
  match e with
  | .noFileOrDirectory .. => .notFound
  | .inappropriateType _ code _ => if code = 21 || code = -21 then .isDirectory else .notDirectory
  | e => .other (toString e)

def readFile (name : String) : IO (Except FileError String) := do
  match ← (IO.FS.readBinFile name).toBaseIO with
  | .ok contents => return textOf contents
  | .error e => return .error (fileErrorOf e)

partial def readLines (input : IO.FS.Stream) (text : String) : IO String := do
  let line ← input.getLine
  if line.isEmpty then return text else readLines input (text ++ line)

/-- Prints the end of a run and gives its exit code. -/
def report : Exit → IO UInt32
  | .usage _ => do IO.eprintln usageText; return 2
  | .aborted => return 101
  | .finished code out err => do
    IO.eprint err
    IO.print out
    return code.toUInt32

def start (args : List String) : IO UInt32 := do
  let logVariable ← IO.getEnv logVariableName
  match Options.parse args with
  | .ok { file := some name, .. } =>
    let contents ← readFile name
    report (run { program, args, logVariable } fun _ => contents)
  | .ok _ =>
    let stdin ← readLines (← IO.getStdin) ""
    report (run { program, args, stdin, logVariable } fun _ => .error .notFound)
  | .error _ => report (run { program, args, logVariable } fun _ => .error .notFound)

end StackLisp.CommandLine

def main (args : List String) : IO UInt32 := StackLisp.CommandLine.start args
