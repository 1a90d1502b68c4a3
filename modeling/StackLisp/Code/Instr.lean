/-
Stack code: straight-line lists of instructions on signed 64-bit words. An instruction pops some
values off the stack and pushes some back; its text is that of the module format.
-/

namespace StackLisp

/-- The operations on two words. -/
inductive BinaryOp
  | add | sub | mul | divS
deriving DecidableEq, Repr

def BinaryOp.text : BinaryOp → String
  | .add => "i64.add"
  | .sub => "i64.sub"
  | .mul => "i64.mul"
  | .divS => "i64.div_s"

/-- A word in decimal. -/
def wordText (v : Int64) : String := v.toInt.repr

inductive Instr
  | const (value : Int64)
  | binary (op : BinaryOp)
  | drop
deriving DecidableEq, Repr

namespace Instr

def text : Instr → String
  | .const value => "i64.const " ++ wordText value
  | .binary op => op.text
  | .drop => "drop"

/-- How many values an instruction takes off the stack. -/
def pops : Instr → Nat
  | .const _ => 0
  | .binary _ => 2
  | .drop => 1

/-- How many values an instruction leaves on the stack in their place. -/
def pushes : Instr → Nat
  | .const _ => 1
  | .binary _ => 1
  | .drop => 0

end Instr

/-- One block of code, run from its first instruction to its last. -/
abbrev Code := List Instr

/-- The instructions of a block, one a line. -/
def Code.listing (code : Code) : String := "\n".intercalate (code.map Instr.text)

end StackLisp
