/-
Text modules. A block becomes the body of one exported function, if it keeps the discipline of the
stack: no instruction pops more than there is, and one value is left. Of several faults the first
underflow is reported before a wrong height, and a wrong height before a wrong name.
-/
import StackLisp.Code.Instr
import StackLisp.Text.Quoted

namespace StackLisp

/-- Why a block with a name for its entry point makes no module. -/
inductive ValidationError
  | stackUnderflow (index : Nat) (instr : Instr)
  | unbalancedStack (depth : Nat)
  | invalidEntryPoint (name : String)
deriving DecidableEq, Repr

def ValidationError.message : ValidationError → String
  | .stackUnderflow index instr =>
    "instruction " ++ index.repr ++ " (`" ++ instr.text ++ "`) pops from an empty stack"
  | .unbalancedStack depth =>
    "entry point must leave exactly one i64 on the stack, found " ++ depth.repr
  | .invalidEntryPoint name => "invalid entry point name " ++ Text.quoted name

namespace Code

/-- The height of the stack after a block that starts at position `index` and at height `height`. -/
def heightFrom (index height : Nat) : Code → Except ValidationError Nat
  | [] => .ok height
  | i :: code =>
    if height < i.pops then .error (.stackUnderflow index i)
    else heightFrom (index + 1) (height - i.pops + i.pushes) code

/-- Entry points are named by ASCII letters, digits and underscores. -/
def isEntryPoint (name : String) : Bool :=
  !name.isEmpty && name.toList.all fun c => c.isAlphanum || c == '_'

/-- The module that exports a block under a name, without a look at either. -/
def moduleText (code : Code) (name : String) : String :=
  "(module\n  (func $" ++ name ++ " (export \"" ++ name ++ "\") (result i64)"
    ++ String.join (code.map fun i => "\n    " ++ i.text) ++ "))"

/-- The text module of a block, or why there is none. -/
def toModule (code : Code) (name : String) : Except ValidationError String :=
  match heightFrom 0 0 code with
  | .error e => .error e
  | .ok height =>
    if height = 1 then
      if isEntryPoint name then .ok (code.moduleText name) else .error (.invalidEntryPoint name)
    else .error (.unbalancedStack height)

/-- The entry point of a module that names none. -/
def defaultEntryPoint : String := "main"

end Code

end StackLisp
