/-
The machine that runs stack code. Addition, subtraction and multiplication wrap around; division
goes toward zero and traps on a zero divisor and on the one quotient that is no word. The first
trap is final: the machine ignores every later instruction. A step that traps has already taken its
operands off the stack.
-/
import StackLisp.Code.Instr

namespace StackLisp

/-- Why a run gives no value. -/
inductive Trap
  | divideByZero
  | integerOverflow
  /-- The instruction at a position pops from an empty stack. -/
  | stackUnderflow (index : Nat)
  /-- The block leaves a number of values other than one. -/
  | unbalancedStack (depth : Nat)
deriving DecidableEq, Repr

def Trap.message : Trap → String
  | .divideByZero => "integer divide by zero"
  | .integerOverflow => "integer overflow"
  | .stackUnderflow index => "instruction " ++ index.repr ++ " pops from an empty stack"
  | .unbalancedStack depth =>
    "block left " ++ depth.repr ++ " values on the stack instead of 1"

/-- The result of an operation on its left and right operand. -/
def BinaryOp.apply : BinaryOp → Int64 → Int64 → Except Trap Int64
  | .add, l, r => .ok (l + r)
  | .sub, l, r => .ok (l - r)
  | .mul, l, r => .ok (l * r)
  | .divS, l, r =>
    if r = 0 then .error .divideByZero
    else if l = Int64.minValue ∧ r = -1 then .error .integerOverflow
    else .ok (l / r)

structure Machine where
  /-- The operand stack, its top first. -/
  stack : List Int64 := []
  /-- How many instructions have been taken up. -/
  executed : Nat := 0
  trap? : Option Trap := none
deriving DecidableEq, Repr

namespace Machine

def step (m : Machine) (i : Instr) : Machine :=
  match m.trap? with
  | some _ => m
  | none =>
    match i, m.stack with
    | .const v, s => ⟨v :: s, m.executed + 1, none⟩
    | .drop, _ :: s => ⟨s, m.executed + 1, none⟩
    | .binary op, r :: l :: s =>
      match op.apply l r with
      | .ok v => ⟨v :: s, m.executed + 1, none⟩
      | .error trap => ⟨s, m.executed + 1, some trap⟩
    | .drop, [] | .binary _, [] | .binary _, [_] =>
      ⟨[], m.executed + 1, some (.stackUnderflow m.executed)⟩

/-- Feeds a block to the machine. -/
def run (m : Machine) (code : Code) : Machine := code.foldl step m

/-- The machine after each instruction of a block. -/
def states (m : Machine) : Code → List Machine
  | [] => []
  | i :: code => m.step i :: states (m.step i) code

/-- The value that a finished block leaves. -/
def finish (m : Machine) : Except Trap Int64 :=
  match m.trap?, m.stack with
  | some trap, _ => .error trap
  | none, [v] => .ok v
  | none, s => .error (.unbalancedStack s.length)

end Machine

/-- The value of a block run on a fresh machine. -/
def Code.execute (code : Code) : Except Trap Int64 := (Machine.run {} code).finish

end StackLisp
