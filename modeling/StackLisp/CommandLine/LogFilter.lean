/-
Log filters: which filter applies, and which texts are filters at all. A filter is a list of
directives with commas between them, and a directive is a level, a target, a span with fields, or
these with a level after an equals sign. The ends of these parts are found in the directive without
the blanks around it, as numbers of bytes from its start; the parts are then cut at these numbers
out of the directive with its blanks. So a directive with blanks before it has other parts than it
seems, and where a cut would fall inside a character it has none.
-/
import StackLisp.CommandLine.Options
import StackLisp.Text.Alphanumeric
import StackLisp.Text.Blank
import StackLisp.Text.Bytes

namespace StackLisp.CommandLine.LogFilter

/-- The filter that applies where none is given. -/
def fallback : String := "warn"

/-- The first text that is not blank, of an option and a variable of the environment. -/
def choose (option environment : Option String) : String :=
  let given := [option, environment].filterMap id
  (given.find? fun s => Text.trim s != "").getD fallback

/-! ## Directives -/

/-- Why a text is no filter. -/
inductive Error
  | level
  | directive
deriving DecidableEq, Repr

def Error.message : Error → String
  | .level =>
    "error parsing level filter: expected one of \"off\", \"error\", \"warn\", \"info\", "
      ++ "\"debug\", \"trace\", or a number 0-5"
  | .directive => "invalid filter directive"

/-- What can be wrong with a text that should be a filter. -/
inductive Fault
  | invalid (error : Error)
  /-- A cut falls inside a character. -/
  | torn
deriving DecidableEq, Repr

def levelNames : List String := ["off", "error", "warn", "info", "debug", "trace"]

/-- Whether a text is a level: its name in any case, or its number. -/
def isLevel (s : String) : Bool :=
  levelNames.contains (String.ofList (s.toList.map Char.toLower))
    || (size? s).any (· < levelNames.length)

/-- Whether a target can start with a character. -/
def isTargetStart (c : Char) : Bool :=
  Text.isAlphanumeric c || c == '-' || c == ':' || c == '_'

section Check

/-! Each function checks the rest of a directive, given how many bytes of the directive come before
the rest. The parts are cut out of `text`, the directive with its blanks. -/

variable (text : List Char)

/-- The text from a cut on. -/
def cut (place : Nat) : Except Fault (List Char) :=
  match Text.dropBytes? text place with
  | some rest => .ok rest
  | none => .error .torn

/-- Cuts a part out. -/
def cutPart (start stop : Nat) : Except Fault Unit := do
  let _ ← cut text start
  let _ ← cut text stop

def checkLevel (start : Nat) : Except Fault Unit := do
  let level ← cut text start
  if level.isEmpty || isLevel (String.ofList level) then .ok () else .error (.invalid .level)

def checkAfterSpan (done : Nat) : List Char → Except Fault Unit
  | [] => .ok ()
  | '=' :: _ => checkLevel text (done + 1)
  | _ :: _ => .error (.invalid .directive)

def checkAfterFields (done : Nat) : List Char → Except Fault Unit
  | ']' :: r => checkAfterSpan text (done + 1) r
  | _ => .error (.invalid .directive)

/-- Checks a list of fields, which is not empty. -/
def checkFields (start done : Nat) : List Char → Except Fault Unit
  | [] => .error (.invalid .directive)
  | c :: r => do
    if c = '\x7d' then
      cutPart text start done
      if start = done then .error (.invalid .directive) else checkAfterFields text (done + 1) r
    else checkFields start (done + c.utf8Size) r

def checkSpan (start done : Nat) : List Char → Except Fault Unit
  | [] => .error (.invalid .directive)
  | c :: r => do
    if c = ']' then
      cutPart text start done
      checkAfterSpan text (done + 1) r
    else if c = '\x7b' then
      cutPart text start done
      checkFields text (done + 1) (done + 1) r
    else checkSpan start (done + c.utf8Size) r

def checkTarget (done : Nat) : List Char → Except Fault Unit
  | [] => .ok ()
  | c :: r => do
    if c = '=' then
      cutPart text 0 done
      checkLevel text (done + 1)
    else if c = '[' then
      cutPart text 0 done
      checkSpan text (done + 1) (done + 1) r
    else checkTarget (done + c.utf8Size) r

def checkStart : List Char → Except Fault Unit
  | [] => .error (.invalid .directive)
  | c :: r =>
    if c = '[' then checkSpan text 1 1 r
    else if isTargetStart c then checkTarget text c.utf8Size r
    else .error (.invalid .directive)

end Check

def checkDirective (text : List Char) : Except Fault Unit :=
  checkStart text (Text.trim (String.ofList text)).toList

/-- Checks the directives of a filter, up to the first that has a fault. -/
def check (filter : String) : Except Fault Unit :=
  ((filter.toList.splitOn ',').filter fun d => !d.isEmpty).forM checkDirective

end StackLisp.CommandLine.LogFilter
