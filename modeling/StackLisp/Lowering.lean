/-
Lowering programs to stack code. An integer becomes a constant. A list applies the operator that its
first element names: the first operand is lowered, and each further operand is lowered and joined to
the value so far. The values of all top-level expressions but the last are dropped. The first fault
ends the lowering; a list is checked before any of its operands is looked at.
-/
import StackLisp.Operator
import StackLisp.Trace

namespace StackLisp

/-- Why a program has no code. -/
inductive CompileError
  | emptyProgram
  /-- An empty list, in the list directly around it if there is one. -/
  | emptyList (within : Option Expr)
  | notCallable (expr : Expr)
  | unknownOperator (name : String) (expr : Expr)
  | arity (operator : String) (expected found : Nat) (expr : Expr)
  | unsupported (expr : Expr)
  | integerOverflow (value : Int)
  /-- The first list past the limit. -/
  | tooDeep (limit : Nat) (expr : Expr)
deriving DecidableEq, Repr

def CompileError.message : CompileError → String
  | .emptyProgram => "program contains no expressions"
  | .emptyList none => "the empty list `()` has no value"
  | .emptyList (some within) => "the empty list `()` has no value in `" ++ within.render ++ "`"
  | .notCallable expr =>
    "`" ++ expr.render ++ "` is not callable: a list must start with an operator"
  | .unknownOperator name expr => "unknown operator `" ++ name ++ "` in `" ++ expr.render ++ "`"
  | .arity operator expected found expr =>
    "`" ++ operator ++ "` expects at least " ++ expected.repr ++ " operands, found "
      ++ found.repr ++ " in `" ++ expr.render ++ "`"
  | .unsupported expr => expr.kindName ++ " `" ++ expr.render ++ "` cannot be used as a value"
  | .integerOverflow value =>
    "integer literal " ++ value.repr ++ " does not fit in a signed 64-bit integer"
  | .tooDeep limit expr =>
    "`" ++ expr.render ++ "` is nested deeper than the limit of " ++ limit.repr ++ " lists"

/-- How programs are lowered: by which operators, and how deep lists may be nested. -/
structure Compiler where
  operators : OperatorTable := .builtin
  maxDepth : Nat := 256
deriving DecidableEq, Repr

namespace Compiler

/-- Whether an integer is a signed 64-bit word. -/
def isWord (v : Int) : Bool := Int64.minValue.toInt ≤ v && v ≤ Int64.maxValue.toInt

mutual

/-- The code that leaves the value of an expression on the stack. The expression stands in `depth`
lists, directly in `within`. -/
def lower (c : Compiler) (within : Option Expr) (depth : Nat) : Expr → Traced CompileError Code
  | .integer v =>
    if isWord v then return [.const (Int64.ofInt v)] else .fail (.integerOverflow v)
  | .atom name => .fail (.unsupported (.atom name))
  | .string value => .fail (.unsupported (.string value))
  | .list es =>
    if c.maxDepth ≤ depth then .fail (.tooDeep c.maxDepth (.list es))
    else
      match es with
      | [] => .fail (.emptyList within)
      | .atom name :: operands =>
        match c.operators.get? name with
        | none => .fail (.unknownOperator name (.list (.atom name :: operands)))
        | some o =>
          match operands with
          | [] => .fail (.arity name o.minOperands 0 (.list [.atom name]))
          | x :: xs =>
            let expr := Expr.list (.atom name :: x :: xs)
            if xs.length + 1 < o.minOperands then
              .fail (.arity name o.minOperands (xs.length + 1) expr)
            else do
              Traced.emit (.lowering expr name)
              let code ← lower c (some expr) (depth + 1) x
              let rest ← lowerRest c expr (depth + 1) o.op xs
              return code ++ rest
      | e :: rest => .fail (.notCallable (.list (e :: rest)))

/-- The code that joins further operands to the value on top of the stack, one after the other. -/
def lowerRest (c : Compiler) (within : Expr) (depth : Nat) (op : BinaryOp) :
    List Expr → Traced CompileError Code
  | [] => return []
  | x :: xs => do
    let code ← lower c (some within) depth x
    let rest ← lowerRest c within depth op xs
    return code ++ .binary op :: rest

end

/-- The code of top-level expressions, of which only the last leaves its value. -/
def lowerProgram (c : Compiler) : Program → Traced CompileError Code
  | [] => .fail .emptyProgram
  | [e] => c.lower none 0 e
  | e :: es => do
    let code ← c.lower none 0 e
    let rest ← c.lowerProgram es
    return code ++ .drop :: rest

/-- Lowers a program and tells of it. -/
def compileTraced (c : Compiler) (p : Program) : Traced CompileError Code := do
  let code ← c.lowerProgram p
  Traced.emit (.compiled p.length code.length)
  return code

/-- The code of a program, or the first fault in it. -/
def compile (c : Compiler) (p : Program) : Except CompileError Code := (c.compileTraced p).result

end Compiler

end StackLisp
