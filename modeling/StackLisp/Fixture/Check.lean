/-
Checking fixtures: a fixture's source is cut into tokens, read or run, and what comes of it is
compared with the lines that the fixture expects, blanks around a line apart.
-/
import StackLisp.Evaluation
import StackLisp.Fixture.Basic
import StackLisp.Text.Quoted

namespace StackLisp.Fixture

/-- What is done with the sources of fixtures. -/
inductive Subject
  | tokens | expressions | programs
deriving DecidableEq, Repr

/-! ## What a source gives -/

/-- The errors and the output of a source. -/
structure Outcome where
  errors : List String := []
  outputs : List String := []
deriving DecidableEq, Repr

def place (s : Span) : String := "[" ++ s.text ++ "] "

def tokenLine (t : Token) : String :=
  place t.span ++ t.kind.label ++ " " ++ Text.quoted t.text

def tokensOutcome (source : String) : Outcome :=
  let items := ({ skipsBlanks := true } : Tokenizer).items source
  { errors := items.filterMap fun
      | .error e => some (place e.span ++ e.fault.message)
      | .token _ => none
    outputs := items.filterMap fun
      | .error _ => none
      | .token t => some (tokenLine t) }

def expressionsOutcome (source : String) : Outcome :=
  match Reader.parse {} source with
  | .ok p => { outputs := p.map Expr.render }
  | .error e => { errors := [e.message] }

def programsOutcome (source : String) : Outcome :=
  match Reader.parse {} source with
  | .error e => { errors := [e.message] }
  | .ok p =>
    match Compiler.compile {} p with
    | .error e => { errors := [e.message] }
    | .ok code =>
      match code.execute with
      | .ok v => { outputs := code.map Instr.text ++ ["=> " ++ wordText v] }
      | .error trap => { errors := ["trap: " ++ trap.message], outputs := code.map Instr.text }

def Subject.outcome : Subject → String → Outcome
  | .tokens => tokensOutcome
  | .expressions => expressionsOutcome
  | .programs => programsOutcome

/-! ## Comparison -/

/-- Two lists of lines side by side, as long as the longer one. -/
def sideBySide : List String → List String → List (String × String)
  | [], [] => []
  | [], e :: es => ("<not present>", e) :: sideBySide [] es
  | g :: gs, [] => (g, "<not present>") :: sideBySide gs []
  | g :: gs, e :: es => (g, e) :: sideBySide gs es

def comparison (line : String × String) : String :=
  (if line.1 = line.2 then " " else "!") ++ " " ++ line.1 ++ " -> " ++ line.2 ++ "\n"

/-- What is printed about a section that differs from what is expected; none if it does not. -/
def mismatch (path heading : String) (expected got : List String) : Option String :=
  let expected := expected.map Text.trim
  let got := got.map Text.trim
  if expected = got then none
  else
    some (path ++ " failed: " ++ heading ++ " differ\n  got -> expected\n"
      ++ String.join ((sideBySide got expected).map comparison))

/-- The outcome of a check: what was printed, and why it failed if it did. -/
structure Verdict where
  failure : Option String
  stdout : String
deriving DecidableEq, Repr

/-- Compares a fixture with what its source gave. -/
def compare (f : Fixture) (path : String) (o : Outcome) : Verdict :=
  match mismatch path "errors" f.errors o.errors, mismatch path "output" f.outputs o.outputs with
  | none, none => ⟨none, ""⟩
  | errors, outputs =>
    ⟨some ("mismatch(es) in datatest at " ++ path), errors.getD "" ++ outputs.getD ""⟩

def check (subject : Subject) (path contents : String) : Verdict :=
  let f := read contents
  f.compare path (subject.outcome f.source)

end StackLisp.Fixture
