/-
The height of the stack along the code of a program. An expression raises the stack by one in the
end. On the way the first operand of an application starts where the application starts, and every
further operand one place higher, on the value so far. So each list adds at most one place, and the
code of an expression stays within one more place than the expression has lists around its innermost
part.

Heights do not depend on values: a program that traps has code that is as well-formed as any other.
-/
import StackLisp.Proofs.Code.Validation
import StackLisp.Proofs.Lowering.Lowers

namespace StackLisp

/-! ## Blocks within a bound -/

namespace Code

/-- `Within bound height code stop`: from `height` the block comes to the height `stop`. No
instruction on the way pops more than there is, and no height on the way is above `bound`. -/
inductive Within (bound : Nat) : Nat → Code → Nat → Prop
  | nil {height : Nat} : height ≤ bound → Within bound height [] height
  | cons {height stop : Nat} {i : Instr} {code : Code} : height ≤ bound → i.pops ≤ height →
      Within bound (height - i.pops + i.pushes) code stop → Within bound height (i :: code) stop

namespace Within

variable {bound height middle stop : Nat} {code rest : Code}

theorem mono (h : Within bound height code stop) {bound' : Nat} (hb : bound ≤ bound') :
    Within bound' height code stop := by
  induction h with
  | nil hle => exact .nil (Nat.le_trans hle hb)
  | cons hle hp _ ih => exact .cons (Nat.le_trans hle hb) hp ih

theorem append (h : Within bound height code middle) (hr : Within bound middle rest stop) :
    Within bound height (code ++ rest) stop := by
  induction h with
  | nil _ => exact hr
  | cons hle hp _ ih => exact .cons hle hp (ih hr)

theorem const (h : Within bound (height + 1) code stop) (hle : height ≤ bound) (v : Int64) :
    Within bound height (.const v :: code) stop :=
  .cons hle (Nat.zero_le _) h

theorem binary (h : Within bound (height + 1) code stop) (hle : height + 2 ≤ bound)
    (op : BinaryOp) : Within bound (height + 2) (.binary op :: code) stop :=
  .cons hle (Nat.le_add_left _ _) h

theorem drop (h : Within bound height code stop) (hle : height + 1 ≤ bound) :
    Within bound (height + 1) (.drop :: code) stop :=
  .cons hle (Nat.le_add_left _ _) h

theorem stop_le (h : Within bound height code stop) : stop ≤ bound := by
  induction h with
  | nil hle => exact hle
  | cons _ _ _ ih => exact ih

/-- What a block starts with stays within the same bound. -/
theorem exists_of_isPrefix (h : Within bound height code stop) :
    ∀ {pre : Code}, pre <+: code → ∃ stop', Within bound height pre stop' := by
  induction h with
  | @nil height hle =>
    intro pre hpre
    obtain rfl := List.prefix_nil.1 hpre
    exact ⟨height, .nil hle⟩
  | @cons height stop i code hle hp _ ih =>
    intro pre hpre
    cases pre with
    | nil => exact ⟨height, .nil hle⟩
    | cons j pre =>
      obtain ⟨rfl, hpre'⟩ := List.cons_prefix_cons.1 hpre
      obtain ⟨stop', h'⟩ := ih hpre'
      exact ⟨stop', .cons hle hp h'⟩

/-- The heights that a block is checked by are those that it comes to. -/
theorem heightFrom_eq (h : Within bound height code stop) (index : Nat) :
    heightFrom index height code = .ok stop := by
  induction h generalizing index with
  | nil _ => rfl
  | cons _ hp _ ih => rw [heightFrom_cons hp, ih]

end Within

end Code

/-- A run that has not trapped has as many values on its stack as the heights say. -/
theorem Machine.Agrees.length_eq {m : Machine} {code : Code} {height : Nat}
    (h : m.Agrees code (.ok height)) (ht : (m.run code).trap? = none) :
    (m.run code).stack.length = height := by
  cases h with
  | finishes _ hl => exact hl
  | trapsFirst hd => rw [hd.trap_run] at ht; cases ht

/-! ## The code of programs -/

namespace Compiler

open Code (Within)

mutual

/-- Code raises the stack by one, and on the way by at most one more for each list. -/
theorem Lowers.within {c : Compiler} : ∀ {depth : Nat} {e : Expr} {code : Code},
    Lowers c depth e code → ∀ height, Within (height + 1 + e.depth) height code (height + 1)
  | _, _, _, .integer _, height => (Within.nil (Nat.le_add_right _ _)).const (by omega) _
  | _, .list (.atom name :: x :: xs), _, .application _ _ _ hx hxs, height => by
    have hd : (Expr.list (.atom name :: x :: xs)).depth = max x.depth (Expr.depthAll xs) + 1 := by
      simp [Expr.depth, Expr.depthAll]
    refine ((hx.within height).mono ?_).append ((hxs.within height).mono ?_)
    all_goals omega

/-- The code of further operands starts and ends with the value so far on top. -/
theorem LowersRest.within {c : Compiler} : ∀ {depth : Nat} {op : BinaryOp} {xs : List Expr}
    {code : Code}, LowersRest c depth op xs code →
      ∀ height, Within (height + 2 + Expr.depthAll xs) (height + 1) code (height + 1)
  | _, _, _, _, .nil, height => .nil (by omega)
  | _, op, x :: xs, _, .cons hx hxs, height => by
    have hd : Expr.depthAll (x :: xs) = max x.depth (Expr.depthAll xs) := by
      rw [Expr.depthAll]
    -- the operand lies on the value so far, and the operation takes both
    refine ((hx.within (height + 1)).mono ?_).append (((hxs.within height).mono ?_).binary ?_ op)
    all_goals omega

end

theorem LowersProgram.within {c : Compiler} {p : Program} {code : Code}
    (h : LowersProgram c p code) : Within (1 + Expr.depthAll p) 0 code 1 := by
  induction h with
  | @last e code he =>
    refine (he.within 0).mono ?_
    simp [Expr.depthAll]
  | @cons e p code rest he _ ih =>
    have hd : Expr.depthAll (e :: p) = max e.depth (Expr.depthAll p) := by rw [Expr.depthAll]
    -- the value is dropped, so the rest starts as low as this expression did
    refine ((he.within 0).mono ?_).append ((ih.mono ?_).drop ?_)
    all_goals omega

mutual

/-- An expression with code has no list past the limit. -/
theorem Lowers.depth_le {c : Compiler} : ∀ {depth : Nat} {e : Expr} {code : Code},
    Lowers c depth e code → depth ≤ c.maxDepth → depth + e.depth ≤ c.maxDepth
  | _, _, _, .integer _, hle => hle
  | depth, .list (.atom name :: x :: xs), _, .application hd _ _ hx hxs, _ => by
    have hx := hx.depth_le hd
    have hxs := hxs.depth_le hd
    simp only [Expr.depth, Expr.depthAll]
    omega

theorem LowersRest.depth_le {c : Compiler} : ∀ {depth : Nat} {op : BinaryOp} {xs : List Expr}
    {code : Code}, LowersRest c depth op xs code → depth ≤ c.maxDepth →
      depth + Expr.depthAll xs ≤ c.maxDepth
  | _, _, _, _, .nil, hle => hle
  | _, _, _, _, .cons hx hxs, hle => by
    have hx := hx.depth_le hle
    have hxs := hxs.depth_le hle
    simp only [Expr.depthAll]
    omega

end

theorem LowersProgram.depthAll_le {c : Compiler} {p : Program} {code : Code}
    (h : LowersProgram c p code) : Expr.depthAll p ≤ c.maxDepth := by
  induction h with
  | last he =>
    have he := he.depth_le (Nat.zero_le _)
    simp only [Expr.depthAll]
    omega
  | cons he _ ih =>
    have he := he.depth_le (Nat.zero_le _)
    simp only [Expr.depthAll]
    omega

/-- The code of a program always makes a module, whether it traps or not, and runs in a bounded
stack: what it starts with never takes more places than one and the greatest depth of the program's
expressions, which is within the limit. -/
theorem compile_validates_within_depth {c : Compiler} {p : Program} {code : Code}
    (h : c.compile p = .ok code) :
    (∀ name : String, name ≠ "" → (∀ ch ∈ name.toList, ch.isAlphanum = true ∨ ch = '_') →
      code.toModule name = .ok (code.moduleText name)) ∧
    (∀ pre, pre <+: code →
      (∃ height ≤ 1 + Expr.depthAll p, Code.heightFrom 0 0 pre = .ok height) ∧
      ((Machine.run {} pre).trap? = none →
        (Machine.run {} pre).stack.length ≤ 1 + Expr.depthAll p)) ∧
    1 + Expr.depthAll p ≤ c.maxDepth + 1 := by
  have hl := (c.compile_eq_ok_iff p code).1 h
  refine ⟨fun name hne hall => ?_, fun pre hpre => ?_, ?_⟩
  · rw [Code.toModule_of_heightFrom_ok (hl.within.heightFrom_eq 0), if_pos rfl,
      if_pos ((Code.isEntryPoint_iff name).2 ⟨hne, hall⟩)]
  · obtain ⟨height, hw⟩ := hl.within.exists_of_isPrefix hpre
    have hh : Code.heightFrom 0 0 pre = .ok height := hw.heightFrom_eq 0
    refine ⟨⟨height, hw.stop_le, hh⟩, fun ht => ?_⟩
    have ha : Machine.Agrees {} pre (Code.heightFrom 0 0 pre) := Code.agrees_heightFrom pre rfl
    rw [hh] at ha
    rw [ha.length_eq ht]
    exact hw.stop_le
  · have := hl.depthAll_le
    omega

/-- Three lists in one another, of which the innermost divides by zero: the block makes a module, and
the four places are needed. -/
theorem compile_validates_within_depth_trapping :
    let c : Compiler := ⟨.builtin, 3⟩
    let p : Program := [.list [.atom "+", .integer 1, .list [.atom "*", .integer 2,
      .list [.atom "/", .integer 3, .integer 0]]]]
    let code : Code := [.const 1, .const 2, .const 3, .const 0, .binary .divS, .binary .mul,
      .binary .add]
    c.compile p = .ok code ∧ code.execute = .error .divideByZero ∧
      code.toModule "main" = .ok (code.moduleText "main") ∧
      Code.heightFrom 0 0 (code.take 4) = .ok 4 ∧
      ∀ pre, pre <+: code → ∃ height ≤ 4, Code.heightFrom 0 0 pre = .ok height := by
  intro c p code
  have h : c.compile p = .ok code := rfl
  obtain ⟨hmodule, hpre, -⟩ := compile_validates_within_depth h
  obtain ⟨hne, hall⟩ := (Code.isEntryPoint_iff "main").1 rfl
  exact ⟨h, rfl, hmodule "main" hne hall, rfl, fun pre hp => (hpre pre hp).1⟩

end Compiler

end StackLisp
