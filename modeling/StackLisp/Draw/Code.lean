/-
Drawn instructions and blocks of code, which need not keep the discipline of the stack.
-/
import StackLisp.Code.Instr
import StackLisp.Draw.Basic

namespace StackLisp.Draw

def binaryOp : Draw BinaryOp := do
  match ← variant 4 with
  | 0 => return .add
  | 1 => return .sub
  | 2 => return .mul
  | _ => return .divS

def instr : Draw Instr := do
  match ← variant 3 with
  | 0 => return .const (Int64.ofNat (← word 8))
  | 1 => return .binary (← binaryOp)
  | _ => return .drop

def code : Draw Code := many instr

end StackLisp.Draw
