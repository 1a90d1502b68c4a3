/-
Answers to a request for help or for the version. Help comes in two lengths: a summary has one line
for each option, and the manual has a paragraph for each.
-/
import StackLisp.CommandLine.Options
import StackLisp.Text.Lines

namespace StackLisp.CommandLine

/-- What a program is called, and the language that it runs. -/
structure Program where
  name : String
  language : String
  version : String
deriving DecidableEq, Repr

/-- The lines on the purpose and the use of a program. -/
def Program.synopsis (p : Program) : List String :=
  ["Compile and run " ++ p.language ++ " programs",
   "",
   "Usage: " ++ p.name ++ " [OPTIONS] [FILE]",
   ""]

def summary : List String :=
  ["Arguments:",
   "  [FILE]  Program to compile. Without it, read programs line by line",
   "",
   "Options:",
   "      --emit <EMIT>            What to print for each program [default: result] "
     ++ "[possible values: result, instructions, wat, ast, tokens]",
   "      --max-depth <MAX_DEPTH>  How deeply lists may nest [default: 256]",
   "      --log-level <LOG_LEVEL>  `tracing` filter directives, overriding RUST_LOG",
   "  -h, --help                   Print help (see more with '--help')",
   "  -V, --version                Print version"]

def manual : List String :=
  ["Arguments:",
   "  [FILE]",
   "          Program to compile. Without it, read programs line by line",
   "",
   "Options:",
   "      --emit <EMIT>",
   "          What to print for each program",
   "          ",
   "          [default: result]",
   "",
   "          Possible values:",
   "          - result:       The value of the program",
   "          - instructions: The instruction listing",
   "          - wat:          A WebAssembly text module",
   "          - ast:          The parsed top-level expressions",
   "          - tokens:       The token stream, labelled over the source",
   "",
   "      --max-depth <MAX_DEPTH>",
   "          How deeply lists may nest",
   "          ",
   "          [default: 256]",
   "",
   "      --log-level <LOG_LEVEL>",
   "          `tracing` filter directives, overriding RUST_LOG",
   "",
   "  -h, --help",
   "          Print help (see a summary with '-h')",
   "",
   "  -V, --version",
   "          Print version"]

/-- What is printed for a request; nothing for any other reason why there are no options. -/
def Program.answer? (p : Program) : UsageError → Option String
  | .help .summary => some (Text.unlines (p.synopsis ++ summary) ++ "\n")
  | .help .manual => some (Text.unlines (p.synopsis ++ manual) ++ "\n")
  | .version => some (p.name ++ " " ++ p.version ++ "\n")
  | _ => none

end StackLisp.CommandLine
