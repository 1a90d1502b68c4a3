/-
The value of a program: lowering and running in one go, after reading where it is given as a source.
-/
import StackLisp.Lowering

namespace StackLisp

/-- Why a program has no value. -/
inductive EvalError
  | parse (error : ParseError)
  | compile (error : CompileError)
  | trap (trap : Trap)
deriving DecidableEq, Repr

/-- Lowers and runs a program. -/
def Compiler.evaluate (c : Compiler) (p : Program) : Traced EvalError Int64 := do
  let code ← (c.compileTraced p).mapError .compile
  code.executeTraced.mapError .trap

/-- Reads, lowers and runs a source. -/
def Compiler.evaluateSource (c : Compiler) (r : Reader) (source : String) :
    Traced EvalError Int64 := do
  let p ← (r.parseTraced source).mapError .parse
  c.evaluate p

end StackLisp
