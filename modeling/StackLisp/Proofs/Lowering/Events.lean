/-
The events of lowering, place by place. Of every list where a value is needed one event is told
before its operands are looked at, once the list itself has been found sound. So the events follow
the pre-order of the lists and end where the first faulty place is, which gives no event itself.
One more event tells of the whole program, if it has code.
-/
import Mathlib.Data.List.Forall2
import StackLisp.Proofs.Lowering.Faults

namespace StackLisp

/-! ## The events of a computation -/

namespace Traced

variable {ε α β : Type}

@[simp] theorem events_pure (a : α) : (Pure.pure a : Traced ε α).events = [] := rfl

/-- A first part that fails leaves only its own events; else those of the second part follow, which
are the same after every value. -/
theorem events_bind {x : Traced ε α} {f : α → Traced ε β} {more : List Event}
    (h : ∀ a, (f a).events = more) :
    (x >>= f).events = x.events ++ if x.fault?.isNone then more else [] := by
  rw [bind_def]
  unfold bind fault?
  cases x.result with
  | ok a => simp [h a]
  | error e => simp

theorem events_join (x : Traced ε α) (y : Traced ε β) {γ : Type} (join : α → β → γ) :
    (do let a ← x; let b ← y; return join a b : Traced ε γ).events =
      x.events ++ if x.fault?.isNone then y.events else [] := by
  refine events_bind fun a => ?_
  rw [events_bind fun b => events_pure _, ite_self, List.append_nil]

theorem events_emit_bind (event : Event) (f : Unit → Traced ε β) :
    (emit event >>= f).events = event :: (f ()).events := rfl

end Traced

/-! ## The events of places -/

namespace Site

/-- What is told of a place that is sound. -/
def announcement (s : Site) : List Event :=
  match s.expr with
  | .list (.atom name :: _) => [.lowering s.expr name]
  | _ => []

/-- What is told of some places, up to the first that is faulty. -/
def announced (c : Compiler) : List Site → List Event
  | [] => []
  | s :: sites =>
    match s.fault c with
    | some _ => []
    | none => s.announcement ++ announced c sites

variable {c : Compiler}

theorem announced_of_fault {s : Site} {err : CompileError} (h : s.fault c = some err)
    (sites : List Site) : announced c (s :: sites) = [] := by
  rw [announced, h]

theorem announced_cons {s : Site} (h : s.fault c = none) (sites : List Site) :
    announced c (s :: sites) = s.announcement ++ announced c sites := by
  rw [announced, h]

/-- A faulty place among the first hides what comes after them. -/
theorem announced_append (sites more : List Site) : announced c (sites ++ more) =
    announced c sites ++ if (sites.findSome? (fault c)).isNone then announced c more else [] := by
  induction sites with
  | nil => rfl
  | cons s sites ih =>
    rw [List.cons_append, List.findSome?_cons]
    cases hs : s.fault c with
    | some err => rw [announced_of_fault hs, announced_of_fault hs]; rfl
    | none => rw [announced_cons hs, announced_cons hs, ih, List.append_assoc]

end Site

/-! ## The events of lowering -/

namespace Compiler

mutual

theorem events_lower (c : Compiler) (within : Option Expr) (depth : Nat) (e : Expr) :
    (c.lower within depth e).events = Site.announced c (Site.ofExpr within depth e) := by
  obtain ⟨err, hf, hl⟩ | ⟨hf, hs⟩ := c.lower_cases ⟨e, within, depth⟩
  -- nothing has been told yet where a fault is found
  · obtain ⟨below, hb⟩ := Site.exists_ofExpr_eq_cons within depth e
    rw [hl, hb, Site.announced_of_fault hf]
    rfl
  · cases hs with
    | integer hv =>
      rw [lower_integer c within depth hv, Site.ofExpr, Site.announced_cons hf]
      · rfl
      · intro _ _ h; cases h
    | @application name o x xs hd ho hm =>
      rw [lower_application c within hd ho hm, Site.ofExpr, Site.announced_cons hf, Site.ofExprs,
        Site.announced_append, ← fault?_lower, ← events_lower, ← events_lowerRest c _ _ o.op,
        Traced.events_emit_bind]
      exact congrArg _ (Traced.events_join _ _ _)
termination_by sizeOf e

theorem events_lowerRest (c : Compiler) (within : Expr) (depth : Nat) (op : BinaryOp) :
    ∀ (es : List Expr), (c.lowerRest within depth op es).events =
      Site.announced c (Site.ofExprs (some within) depth es)
  | [] => by rw [lowerRest, Site.ofExprs]; rfl
  | e :: es => by
    rw [lowerRest, Site.ofExprs, Site.announced_append, ← fault?_lower, ← events_lower,
      ← events_lowerRest c within depth op es]
    exact Traced.events_join _ _ _
termination_by es => sizeOf es

end

/-- What is told of a whole program. -/
def closing (p : Program) : Except CompileError Code → List Event
  | .ok code => [.compiled p.length code.length]
  | .error _ => []

end Compiler

end StackLisp
