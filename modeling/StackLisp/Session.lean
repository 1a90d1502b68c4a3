/-
Sessions: what the command line prints for one program. A session emits the value of a program, or
its code, module, expressions or tokens, and reports the first fault on the error stream. Tokens are
drawn over the source, which fails for a source without any.
-/
import StackLisp.Code.Module
import StackLisp.Lowering
import StackLisp.Snippet

namespace StackLisp

open Text (Colour)

/-- What to print for a program. -/
inductive Emit
  | result | instructions | wat | ast | tokens
deriving DecidableEq, Repr

structure Session where
  emit : Emit := .result
  maxDepth : Nat := 256
deriving DecidableEq, Repr

/-- What a program came to: whether it got through, and what was printed. -/
structure Report where
  ok : Bool
  stdout : String := ""
  stderr : String := ""
deriving DecidableEq, Repr

namespace Session

def tokenizer : Tokenizer := { skipsBlanks := true }

def reader (s : Session) : Reader := { tokenizer, maxDepth := s.maxDepth }

def compiler (s : Session) : Compiler := { maxDepth := s.maxDepth }

/-- A message under a heading. -/
def headed (colour : Colour) (heading message : String) : String :=
  colour.paintBold heading ++ ": " ++ message ++ "\n"

def printed (text : String) : Report := { ok := true, stdout := text ++ "\n" }

def refused (text : String) : Report := { ok := false, stderr := text }

/-! ## Tokens -/

def kindColour : Token.Kind → Option Colour
  | .atom => some .blue
  | .integer => some .yellow
  | .string => some .cyan
  | .whitespace | .lparen | .rparen => none

def errorLabel (span : Span) (message : String) : Snippet.Label :=
  ⟨span, some .red, Colour.red.paint message⟩

def itemLabel : Item → Snippet.Label
  | .token t => ⟨t.span, kindColour t.kind, Colour.green.paint t.kind.name⟩
  | .error e => errorLabel e.span e.fault.message

def isToken : Item → Bool
  | .token _ => true
  | .error _ => false

/-- The labels of all items of a source. -/
def labels (source : String) : List Snippet.Label := (tokenizer.items source).map itemLabel

/-- The tokens of a source, drawn over it; none if there is nothing to draw. -/
def showTokens (name source : String) : Option Report :=
  (Snippet.draw name source (labels source)).map fun snippet =>
    { ok := (tokenizer.items source).all isToken, stdout := snippet ++ "\n" }

/-! ## Programs -/

def parseErrorReport (name source : String) (e : ParseError) : Report :=
  let snippet :=
    match Snippet.draw name source [errorLabel e.span e.message] with
    | some snippet => snippet ++ "\n"
    | none => ""
  refused (headed .red "parse error" e.message ++ snippet)

def compileErrorReport (c : Compiler) (e : CompileError) : Report :=
  let hint :=
    match e with
    | .unknownOperator .. => "  known operators: " ++ c.operators.known ++ "\n"
    | _ => ""
  refused (headed .red "compile error" e.message ++ hint)

def showCode (code : Code) : Report := printed code.listing

def showModule (code : Code) : Report :=
  match code.toModule Code.defaultEntryPoint with
  | .ok text => printed text
  | .error e => refused (headed .red "invalid module" e.message)

def showResult (code : Code) : Report :=
  match code.execute with
  | .ok v => printed (Colour.green.paint (wordText v))
  | .error trap => refused (headed .magenta "trap" trap.message)

/-- The written forms of expressions, one a line. -/
def showExprs (p : Program) : Report :=
  { ok := true, stdout := String.join (p.map fun e => e.render ++ "\n") }

/-- Lowers a program and goes on with its code. -/
def withCode (s : Session) (p : Program) (next : Code → Report) : Report :=
  match s.compiler.compile p with
  | .error e => compileErrorReport s.compiler e
  | .ok code => next code

/-- Reads a source and goes on with the program in it. -/
def withProgram (s : Session) (name source : String) (next : Program → Report) : Report :=
  match s.reader.parse source with
  | .error e => parseErrorReport name source e
  | .ok p => next p

/-- Prints what was asked for a named source; none if it cannot be drawn. -/
def run (s : Session) (name source : String) : Option Report :=
  match s.emit with
  | .tokens => showTokens name source
  | .ast => some (s.withProgram name source showExprs)
  | .instructions => some (s.withProgram name source fun p => s.withCode p showCode)
  | .wat => some (s.withProgram name source fun p => s.withCode p showModule)
  | .result => some (s.withProgram name source fun p => s.withCode p showResult)

end Session

end StackLisp
