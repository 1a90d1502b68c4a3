/-
Events, and computations that leave events behind. A computation keeps its events in order whether
it gives a value or an error.
-/
import StackLisp.Code.Machine
import StackLisp.Expr.Printer
import StackLisp.Expr.Reader

namespace StackLisp

/-- What is told while a program is read, lowered and run. -/
inductive Event
  | parsed (expressions : Nat)
  | lowering (expr : Expr) (operator : String)
  | compiled (expressions instructions : Nat)
  | returned (value : Int64)
  | trapped (trap : Trap)
deriving DecidableEq, Repr

namespace Event

/-- The parts of the program that tell events. -/
inductive Source
  | reader | compiler | machine
deriving DecidableEq, Repr

def source : Event → Source
  | .parsed _ => .reader
  | .lowering .. | .compiled .. => .compiler
  | .returned _ | .trapped _ => .machine

/-- Whether an event tells of one step only; the others tell of a whole program. -/
def isDetail : Event → Bool
  | .parsed _ | .compiled .. => false
  | .lowering .. | .returned _ | .trapped _ => true

def message : Event → String
  | .parsed _ => "parsed program"
  | .lowering .. => "lowering application"
  | .compiled .. => "compiled program"
  | .returned _ => "block returned"
  | .trapped _ => "block trapped"

end Event

/-- A computation's events and its outcome. -/
structure Traced (ε α : Type) where
  events : List Event
  result : Except ε α

namespace Traced

variable {ε α β : Type}

def pure (a : α) : Traced ε α := ⟨[], .ok a⟩

def fail (e : ε) : Traced ε α := ⟨[], .error e⟩

def emit (event : Event) : Traced ε Unit := ⟨[event], .ok ()⟩

def bind (x : Traced ε α) (f : α → Traced ε β) : Traced ε β :=
  match x.result with
  | .ok a => ⟨x.events ++ (f a).events, (f a).result⟩
  | .error e => ⟨x.events, .error e⟩

instance : Monad (Traced ε) where
  pure := pure
  bind := bind

theorem bind_def (x : Traced ε α) (f : α → Traced ε β) : x >>= f = x.bind f := rfl

/-- The computation with its error seen as another one. -/
def mapError {ε' : Type} (f : ε → ε') (x : Traced ε α) : Traced ε' α :=
  ⟨x.events, x.result.mapError f⟩

@[simp] theorem result_bind (x : Traced ε α) (f : α → Traced ε β) :
    (x.bind f).result = x.result.bind fun a => (f a).result := by
  unfold bind
  cases x.result <;> rfl

end Traced

/-- Reads a source and tells of a program in it. -/
def Reader.parseTraced (r : Reader) (source : String) : Traced ParseError Program :=
  match r.parse source with
  | .ok p => ⟨[.parsed p.length], .ok p⟩
  | .error e => ⟨[], .error e⟩

/-- Runs a block and tells how it ended. -/
def Code.executeTraced (code : Code) : Traced Trap Int64 :=
  match code.execute with
  | .ok v => ⟨[.returned v], .ok v⟩
  | .error trap => ⟨[.trapped trap], .error trap⟩

end StackLisp
