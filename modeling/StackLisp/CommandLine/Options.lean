/-
Options of the command line: `[FILE] [--emit MODE] [--max-depth N] [--log-level FILTER]`. The
arguments are read from the left. A value after an equals sign is looked at where it stands; any
other value is only taken down, and looked at when the next thing is given or when the line ends. So
an unknown argument hides a fault in the value right before it, and in no other value.
-/
import StackLisp.Session

namespace StackLisp.CommandLine

/-- The options that take a value. -/
inductive Key
  | emit | maxDepth | logLevel
deriving DecidableEq, Repr

def Key.name : Key → String
  | .emit => "--emit"
  | .maxDepth => "--max-depth"
  | .logLevel => "--log-level"

inductive HelpLength
  | summary | manual
deriving DecidableEq, Repr

/-- Why arguments give no options. To ask for help or for the version is one reason. -/
inductive UsageError
  | help (length : HelpLength)
  | version
  | unknownArgument (arg : String)
  /-- A value attached to a request that takes none. -/
  | unneededValue (arg : String)
  | missingValue (key : Key)
  | repeated (key : Key)
  | unknownMode (value : String)
  | invalidDepth (value : String)
  | emptyFile
deriving DecidableEq, Repr

structure Options where
  file : Option String := none
  emit : Emit := .result
  maxDepth : Nat := 256
  logLevel : Option String := none
deriving DecidableEq, Repr

/-! ## Forms -/

/-- One thing that the arguments give. -/
inductive Given
  | option (key : Key) (value : Option String)
  | file (name : String)
deriving DecidableEq, Repr

def Given.isFile : Given → Bool
  | .file _ => true
  | .option _ _ => false

/-- What an argument is by its form. -/
inductive Form
  | operand
  | endOfOptions
  | option (key : Key) (value : Option String)
  /-- It asks for help or for the version. -/
  | request (answer : UsageError)
  | wrong (error : UsageError)
deriving DecidableEq, Repr

/-- The text before the first equals sign, and the text after it if there is one. -/
def cutValue : List Char → List Char × Option (List Char)
  | [] => ([], none)
  | c :: r =>
    if c = '=' then ([], some r)
    else
      let more := cutValue r
      (c :: more.1, more.2)

/-- The form of an argument that starts with two dashes, which are left off. -/
def longForm (arg : String) (body : List Char) : Form :=
  let cut := cutValue body
  let value := cut.2.map String.ofList
  let request (answer : UsageError) : Form :=
    if value.isSome then .wrong (.unneededValue arg) else .request answer
  match String.ofList cut.1 with
  | "emit" => .option .emit value
  | "max-depth" => .option .maxDepth value
  | "log-level" => .option .logLevel value
  | "help" => request (.help .manual)
  | "version" => request .version
  | _ => .wrong (.unknownArgument arg)

def form (arg : String) : Form :=
  match arg.toList with
  | ['-', '-'] => .endOfOptions
  | '-' :: '-' :: body => longForm arg body
  | '-' :: 'h' :: _ => .request (.help .summary)
  | '-' :: 'V' :: _ => .request .version
  | '-' :: _ :: _ => .wrong (.unknownArgument arg)
  | _ => .operand

/-- Whether an argument can be the value of the option before it. -/
def isValue (arg : String) : Bool := form arg == .operand

/-! ## Values -/

def emit? : String → Option Emit
  | "result" => some .result
  | "instructions" => some .instructions
  | "wat" => some .wat
  | "ast" => some .ast
  | "tokens" => some .tokens
  | _ => none

/-- A number of 64 bits, in decimal digits after at most one plus sign. -/
def size? (s : String) : Option Nat :=
  let digits := match s.toList with
    | '+' :: r => r
    | r => r
  if digits.isEmpty || !digits.all Char.isDigit then none
  else
    let n := Nat.ofDigitChars 10 digits 0
    if n < UInt64.size then some n else none

/-- The values that were given so far. -/
structure Values where
  file : Option String := none
  emit : Option Emit := none
  maxDepth : Option Nat := none
  logLevel : Option String := none
deriving DecidableEq, Repr

namespace Values

def has (v : Values) : Key → Bool
  | .emit => v.emit.isSome
  | .maxDepth => v.maxDepth.isSome
  | .logLevel => v.logLevel.isSome

def set (v : Values) (key : Key) (value : String) : Except UsageError Values :=
  match key with
  | .emit =>
    match emit? value with
    | some e => .ok { v with emit := some e }
    | none => .error (.unknownMode value)
  | .maxDepth =>
    match size? value with
    | some n => .ok { v with maxDepth := some n }
    | none => .error (.invalidDepth value)
  | .logLevel => .ok { v with logLevel := some value }

def add (v : Values) : Given → Except UsageError Values
  | .file name => if name.isEmpty then .error .emptyFile else .ok { v with file := some name }
  | .option key none => .error (.missingValue key)
  | .option key (some value) => if v.has key then .error (.repeated key) else v.set key value

def toOptions (v : Values) : Options :=
  ⟨v.file, v.emit.getD .result, v.maxDepth.getD 256, v.logLevel⟩

end Values

/-! ## Reading -/

/-- What was read so far: the values that were looked at, and what was taken down after them. -/
structure Progress where
  values : Values := {}
  pending : Option Given := none
deriving DecidableEq, Repr

namespace Progress

def hasFile (p : Progress) : Bool := p.values.file.isSome || p.pending.any Given.isFile

/-- Looks at what was taken down. -/
def settle (p : Progress) : Except UsageError Values :=
  match p.pending with
  | none => .ok p.values
  | some given => p.values.add given

/-- Takes a thing down, after a look at the one before it. -/
def hold (p : Progress) (given : Given) : Except UsageError Progress := do
  return ⟨← p.settle, some given⟩

/-- Looks at a thing at once, after a look at the one before it. -/
def accept (p : Progress) (given : Given) : Except UsageError Progress := do
  return ⟨← (← p.settle).add given, none⟩

/-- Takes a file down; there is room for one. -/
def holdFile (p : Progress) (name : String) : Except UsageError Progress :=
  if p.hasFile then .error (.unknownArgument name) else p.hold (.file name)

/-- Reads arguments that are all files. -/
def readFiles (p : Progress) : List String → Except UsageError Values
  | [] => p.settle
  | arg :: args => do readFiles (← p.holdFile arg) args

def read (p : Progress) : List String → Except UsageError Values
  | [] => p.settle
  | arg :: args =>
    match form arg with
    | .wrong e => .error e
    | .request answer => do
      let _ ← p.settle
      .error answer
    | .endOfOptions => p.readFiles args
    | .operand => do read (← p.holdFile arg) args
    | .option key (some value) => do read (← p.accept (.option key (some value))) args
    | .option key none => do
      match args with
      | [] => read (← p.hold (.option key none)) []
      | value :: rest =>
        if isValue value then read (← p.hold (.option key (some value))) rest
        else read (← p.hold (.option key none)) (value :: rest)

end Progress

/-- The options that some arguments give. -/
def Options.parse (args : List String) : Except UsageError Options := do
  return (← Progress.read {} args).toOptions

def Options.session (o : Options) : Session := ⟨o.emit, o.maxDepth⟩

end StackLisp.CommandLine
