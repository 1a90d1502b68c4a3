/-
The lowering relation: which code an expression, the further operands of an application, and a whole
program have. Lowering gives exactly this code, so that what holds of all code can be proven by
induction on how it came about, without a look at faults or events.
-/
import StackLisp.Proofs.Lowering.Faults

namespace StackLisp

namespace Traced

variable {ε α β : Type}

theorem result_bind_eq_ok {x : Traced ε α} {f : α → Traced ε β} {b : β} :
    (x >>= f).result = .ok b ↔ ∃ a, x.result = .ok a ∧ (f a).result = .ok b := by
  rw [bind_def, result_bind]
  constructor
  · intro h
    cases hx : x.result with
    | error e => rw [hx] at h; cases h
    | ok a => rw [hx] at h; exact ⟨a, rfl, h⟩
  · rintro ⟨a, ha, h⟩
    rw [ha]
    exact h

end Traced

namespace Compiler

/-! ## The relation -/

mutual

/-- `Lowers c depth e code`: the expression `e` in `depth` lists has the code `code`. -/
inductive Lowers (c : Compiler) : Nat → Expr → Code → Prop
  | integer {depth : Nat} {v : Int} : isWord v = true →
      Lowers c depth (.integer v) [.const (Int64.ofInt v)]
  | application {depth : Nat} {name : String} {o : Operator} {x : Expr} {xs : List Expr}
      {code rest : Code} : depth < c.maxDepth → c.operators.get? name = some o →
      o.minOperands ≤ xs.length + 1 → Lowers c (depth + 1) x code →
      LowersRest c (depth + 1) o.op xs rest →
      Lowers c depth (.list (.atom name :: x :: xs)) (code ++ rest)

/-- `LowersRest c depth op xs code`: `code` joins the operands `xs` to the value so far by `op`. -/
inductive LowersRest (c : Compiler) : Nat → BinaryOp → List Expr → Code → Prop
  | nil {depth : Nat} {op : BinaryOp} : LowersRest c depth op [] []
  | cons {depth : Nat} {op : BinaryOp} {x : Expr} {xs : List Expr} {code rest : Code} :
      Lowers c depth x code → LowersRest c depth op xs rest →
      LowersRest c depth op (x :: xs) (code ++ .binary op :: rest)

end

/-- `LowersProgram c p code`: the program `p` has the code `code`. -/
inductive LowersProgram (c : Compiler) : Program → Code → Prop
  | last {e : Expr} {code : Code} : Lowers c 0 e code → LowersProgram c [e] code
  | cons {e : Expr} {p : Program} {code rest : Code} : Lowers c 0 e code →
      LowersProgram c p rest → LowersProgram c (e :: p) (code ++ .drop :: rest)

/-! ## Lowering computes it -/

mutual

theorem lowers_of_lower (c : Compiler) (within : Option Expr) (depth : Nat) (e : Expr) (code : Code)
    (h : (c.lower within depth e).result = .ok code) : Lowers c depth e code := by
  obtain ⟨err, -, hl⟩ | ⟨-, hs⟩ := c.lower_cases ⟨e, within, depth⟩
  · rw [hl] at h; cases h
  · cases hs with
    | integer hv => rw [lower_integer c within depth hv] at h; cases h; exact .integer hv
    | @application name o x xs hd ho hm =>
      rw [lower_application c within hd ho hm] at h
      obtain ⟨_, -, h⟩ := Traced.result_bind_eq_ok.1 h
      obtain ⟨first, hx, h⟩ := Traced.result_bind_eq_ok.1 h
      obtain ⟨rest, hxs, h⟩ := Traced.result_bind_eq_ok.1 h
      cases h
      exact .application hd ho hm (lowers_of_lower c _ _ x first hx)
        (lowersRest_of_lowerRest c _ _ o.op xs rest hxs)
termination_by sizeOf e

theorem lowersRest_of_lowerRest (c : Compiler) (within : Expr) (depth : Nat) (op : BinaryOp) :
    ∀ (xs : List Expr) (code : Code), (c.lowerRest within depth op xs).result = .ok code →
      LowersRest c depth op xs code
  | [], code, h => by cases h; exact .nil
  | x :: xs, code, h => by
    rw [lowerRest] at h
    obtain ⟨first, hx, h⟩ := Traced.result_bind_eq_ok.1 h
    obtain ⟨rest, hxs, h⟩ := Traced.result_bind_eq_ok.1 h
    cases h
    exact .cons (lowers_of_lower c _ _ x first hx)
      (lowersRest_of_lowerRest c within depth op xs rest hxs)
termination_by xs => sizeOf xs

end

mutual

theorem Lowers.result_lower {c : Compiler} : ∀ {depth : Nat} {e : Expr} {code : Code},
    Lowers c depth e code → ∀ within, (c.lower within depth e).result = .ok code
  | depth, _, _, .integer hv, within => by rw [lower_integer c within depth hv]; rfl
  | _, _, _, .application hd ho hm hx hxs, within => by
    rw [lower_application c within hd ho hm, Traced.result_bind_eq_ok]
    refine ⟨(), rfl, ?_⟩
    rw [Traced.result_bind_eq_ok]
    refine ⟨_, hx.result_lower _, ?_⟩
    rw [Traced.result_bind_eq_ok]
    exact ⟨_, hxs.result_lowerRest _, rfl⟩

theorem LowersRest.result_lowerRest {c : Compiler} : ∀ {depth : Nat} {op : BinaryOp}
    {xs : List Expr} {code : Code}, LowersRest c depth op xs code →
      ∀ within, (c.lowerRest within depth op xs).result = .ok code
  | _, _, _, _, .nil, within => rfl
  | _, _, _, _, .cons hx hxs, within => by
    rw [lowerRest, Traced.result_bind_eq_ok]
    refine ⟨_, hx.result_lower _, ?_⟩
    rw [Traced.result_bind_eq_ok]
    exact ⟨_, hxs.result_lowerRest _, rfl⟩

end

theorem lowersProgram_of_lowerProgram (c : Compiler) : ∀ (p : Program) (code : Code),
    (c.lowerProgram p).result = .ok code → LowersProgram c p code
  | [], _, h => by cases h
  | [e], code, h => .last (lowers_of_lower c none 0 e code h)
  | e :: e' :: es, code, h => by
    rw [lowerProgram] at h
    · obtain ⟨first, he, h⟩ := Traced.result_bind_eq_ok.1 h
      obtain ⟨rest, hes, h⟩ := Traced.result_bind_eq_ok.1 h
      cases h
      exact .cons (lowers_of_lower c none 0 e first he)
        (lowersProgram_of_lowerProgram c (e' :: es) rest hes)
    · exact List.cons_ne_nil _ _

theorem LowersProgram.result_lowerProgram {c : Compiler} {p : Program} {code : Code}
    (h : LowersProgram c p code) : (c.lowerProgram p).result = .ok code := by
  induction h with
  | last he => rw [lowerProgram]; exact he.result_lower none
  | @cons e p code rest he hp ih =>
    rw [lowerProgram, Traced.result_bind_eq_ok]
    · refine ⟨code, he.result_lower none, ?_⟩
      rw [Traced.result_bind_eq_ok]
      exact ⟨rest, ih, rfl⟩
    · rintro rfl; cases hp

theorem compile_eq_result (c : Compiler) (p : Program) :
    c.compile p = (c.lowerProgram p).result := by
  unfold compile compileTraced
  rw [Traced.bind_def, Traced.result_bind]
  cases (c.lowerProgram p).result <;> rfl

/-- The code of a program is the code that the relation gives it. -/
theorem compile_eq_ok_iff (c : Compiler) (p : Program) (code : Code) :
    c.compile p = .ok code ↔ LowersProgram c p code := by
  rw [compile_eq_result]
  exact ⟨lowersProgram_of_lowerProgram c p code, LowersProgram.result_lowerProgram⟩

end Compiler

end StackLisp
