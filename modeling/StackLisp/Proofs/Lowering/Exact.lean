/-
Programs that never divide, computed in unbounded integers. Wrapping to a word is compatible with
sums, differences and products, so that it makes no difference whether every result on the way is
wrapped or only the last one. Code wraps at every step. Its value is the one word that is congruent
to the exact value, and nothing in it can trap.
-/
import Mathlib.Data.Int.ModEq
import StackLisp.Proofs.Lowering.Meaning

namespace StackLisp

/-! ## Exact values -/

/-- The operations that unbounded integers have without exception. -/
def BinaryOp.ring? : BinaryOp → Option (Int → Int → Int)
  | .add => some (· + ·)
  | .sub => some (· - ·)
  | .mul => some (· * ·)
  | .divS => none

namespace OperatorTable

mutual

/-- The value of an expression in unbounded integers: operands are joined from the left, and nothing
is wrapped. -/
def exactValue? (t : OperatorTable) : Expr → Option Int
  | .integer v => some v
  | .list (.atom name :: operands) => do
    let o ← t.get? name
    let f ← o.op.ring?
    match ← t.exactValues? operands with
    | [] => none
    | v :: vs => some (vs.foldl f v)
  | _ => none

/-- The values of some expressions, if all of them have one. -/
def exactValues? (t : OperatorTable) : List Expr → Option (List Int)
  | [] => some []
  | e :: es => do
    let v ← t.exactValue? e
    let vs ← t.exactValues? es
    return v :: vs

end

end OperatorTable

namespace Site

/-- The operator that the expression at a place applies. -/
def operator? (t : OperatorTable) (s : Site) : Option Operator :=
  match s.expr with
  | .list (.atom name :: _) => t.get? name
  | _ => none

/-- The operator at a place, if there is one, adds, subtracts or multiplies. -/
def NeverDivides (t : OperatorTable) (s : Site) : Prop :=
  ∀ o ∈ s.operator? t, o.op = .add ∨ o.op = .sub ∨ o.op = .mul

instance (t : OperatorTable) (s : Site) : Decidable (s.NeverDivides t) :=
  inferInstanceAs (Decidable (∀ o ∈ s.operator? t, o.op = .add ∨ o.op = .sub ∨ o.op = .mul))

end Site

/-! ## Wrapping is compatible with exact operations -/

theorem wrapWord_of_isWord {v : Int} (h : Compiler.isWord v = true) : wrapWord v = v := by
  obtain ⟨hl, hu⟩ := (Compiler.isWord_iff v).1 h
  exact Int.bmod_eq_of_le hl (by omega)

theorem BinaryOp.exists_ring? {op : BinaryOp} (h : op = .add ∨ op = .sub ∨ op = .mul) :
    ∃ f, op.ring? = some f := by
  obtain rfl | rfl | rfl := h
  all_goals exact ⟨_, rfl⟩

/-- The operation on wrapped operands wraps the exact result. -/
theorem BinaryOp.eval_wrapWord {op : BinaryOp} {f : Int → Int → Int} (h : op.ring? = some f)
    (l r : Int) : op.eval (wrapWord l) (wrapWord r) = .ok (wrapWord (f l r)) := by
  cases op with
  | add =>
    cases h
    exact congrArg Except.ok (Int.bmod_add_bmod.trans Int.add_bmod_bmod)
  | sub =>
    cases h
    exact congrArg Except.ok (Int.bmod_sub_bmod.trans Int.sub_bmod_bmod)
  | mul =>
    cases h
    exact congrArg Except.ok (Int.bmod_mul_bmod.trans Int.mul_bmod_bmod)
  | divS => cases h

/-- A word is congruent to an integer if and only if the integer wraps around to it. -/
theorem toInt_modEq_iff (w : Int64) (v : Int) :
    w.toInt ≡ v [ZMOD 2 ^ 64] ↔ w.toInt = wrapWord v := by
  constructor
  · intro h
    have h' : w.toInt % (18446744073709551616 : Nat) = v % (18446744073709551616 : Nat) := h
    rw [wrapWord, ← Int.emod_bmod, ← h', Int.emod_bmod, Int64.toInt_bmod]
  · intro h
    rw [h]
    exact Int.bmod_emod

/-! ## Evaluation wraps the exact value -/

namespace Compiler

mutual

theorem Lowers.eval_eq_wrapWord {c : Compiler} : ∀ {depth : Nat} {e : Expr} {code : Code},
    Lowers c depth e code → ∀ (within : Option Expr),
      (∀ s ∈ Site.ofExpr within depth e, s.NeverDivides c.operators) →
      ∃ v, c.operators.exactValue? e = some v ∧ c.operators.eval e = .ok (wrapWord v)
  | _, .integer v, _, .integer hv, _, _ =>
    ⟨v, by rw [OperatorTable.exactValue?], by rw [OperatorTable.eval, wrapWord_of_isWord hv]; rfl⟩
  | _, .list (.atom name :: x :: xs), _, .application (o := o) _ ho _ hx hxs, within, hsites => by
    rw [Site.ofExpr, Site.ofExprs, List.forall_mem_cons, List.forall_mem_append] at hsites
    obtain ⟨hhere, hfirst, hrest⟩ := hsites
    obtain ⟨f, hf⟩ := BinaryOp.exists_ring? (hhere o ho)
    obtain ⟨v, hv, heval⟩ := hx.eval_eq_wrapWord _ hfirst
    obtain ⟨vs, hvs, hevals⟩ := hxs.evalRest_eq_wrapWord hf _ hrest
    refine ⟨vs.foldl f v, ?_, ?_⟩
    · simp [OperatorTable.exactValue?, OperatorTable.exactValues?, ho, hf, hv, hvs]
    · rw [OperatorTable.eval, ho]
      simp only [heval]
      exact hevals v

theorem LowersRest.evalRest_eq_wrapWord {c : Compiler} : ∀ {depth : Nat} {op : BinaryOp}
    {xs : List Expr} {code : Code}, LowersRest c depth op xs code →
      ∀ {f : Int → Int → Int}, op.ring? = some f → ∀ (within : Option Expr),
      (∀ s ∈ Site.ofExprs within depth xs, s.NeverDivides c.operators) →
      ∃ vs, c.operators.exactValues? xs = some vs ∧
        ∀ acc, c.operators.evalRest op (wrapWord acc) xs = .ok (wrapWord (vs.foldl f acc))
  | _, _, _, _, .nil, f, _, _, _ =>
    ⟨[], by rw [OperatorTable.exactValues?], fun acc => by rw [OperatorTable.evalRest]; rfl⟩
  | _, op, x :: xs, _, .cons hx hxs, f, hf, within, hsites => by
    rw [Site.ofExprs, List.forall_mem_append] at hsites
    obtain ⟨v, hv, heval⟩ := hx.eval_eq_wrapWord _ hsites.1
    obtain ⟨vs, hvs, hevals⟩ := hxs.evalRest_eq_wrapWord hf _ hsites.2
    refine ⟨v :: vs, by simp [OperatorTable.exactValues?, hv, hvs], fun acc => ?_⟩
    rw [OperatorTable.evalRest, heval, List.foldl_cons, ← hevals (f acc v)]
    simp only [bind, Except.bind, BinaryOp.eval_wrapWord hf]

end

theorem LowersProgram.evalProgram_eq_wrapWord {c : Compiler} {p : Program} {code : Code}
    (h : LowersProgram c p code) :
    (∀ s ∈ Site.ofProgram p, s.NeverDivides c.operators) →
    ∃ e v, p.getLast? = some e ∧ c.operators.exactValue? e = some v ∧
      c.operators.evalProgram p = .ok (wrapWord v) := by
  induction h with
  | @last e code he =>
    intro hsites
    rw [Site.ofProgram, Site.ofExprs, List.forall_mem_append] at hsites
    obtain ⟨v, hv, heval⟩ := he.eval_eq_wrapWord _ hsites.1
    exact ⟨e, v, rfl, hv, heval⟩
  | @cons e p code rest he hp ih =>
    intro hsites
    rw [Site.ofProgram, Site.ofExprs, List.forall_mem_append] at hsites
    obtain ⟨_, _, heval⟩ := he.eval_eq_wrapWord _ hsites.1
    obtain ⟨e', v, hlast, hv, hevals⟩ := ih hsites.2
    have hne : p ≠ [] := by rintro rfl; cases hp
    refine ⟨e', v, by rw [List.getLast?_cons_of_ne_nil hne, hlast], hv, ?_⟩
    rw [OperatorTable.evalProgram, heval]
    · exact hevals
    · exact hne

/-- A program that never divides does not trap, and its value is the only word that is congruent
modulo 2^64 to the value of its last expression in unbounded integers. -/
theorem execute_compile_modEq_exact {c : Compiler} {p : Program} {code : Code}
    (h : c.compile p = .ok code) (hsites : ∀ s ∈ Site.ofProgram p, s.NeverDivides c.operators) :
    ∃ e v w, p.getLast? = some e ∧ c.operators.exactValue? e = some v ∧ code.execute = .ok w ∧
      ∀ w' : Int64, w'.toInt ≡ v [ZMOD 2 ^ 64] ↔ w' = w := by
  have hl := (c.compile_eq_ok_iff p code).1 h
  obtain ⟨e, v, hlast, hv, heval⟩ := hl.evalProgram_eq_wrapWord hsites
  have hshows := hl.shows (m := {}) rfl rfl
  rw [heval] at hshows
  obtain ⟨ht, w, hw, hs⟩ := hshows
  have hrun : code.execute = .ok w := by
    unfold Code.execute Machine.finish
    rw [ht, hs]
  refine ⟨e, v, w, hlast, hv, hrun, fun w' => ?_⟩
  rw [toInt_modEq_iff, ← hw, Int64.toInt_inj]

/-- A product that wraps around and is dropped, then a difference of which the subtrahend has already
wrapped around: the exact value is one below the least word. -/
theorem execute_compile_modEq_exact_wrapping :
    let c : Compiler := {}
    let last : Expr := .list [.atom "-", .integer 0,
      .list [.atom "+", .integer 9223372036854775807, .integer 2]]
    let p : Program := [.list [.atom "*", .integer 9223372036854775807, .integer 3], last]
    let code : Code := [.const 9223372036854775807, .const 3, .binary .mul, .drop,
      .const 0, .const 9223372036854775807, .const 2, .binary .add, .binary .sub]
    c.compile p = .ok code ∧ (∀ s ∈ Site.ofProgram p, s.NeverDivides c.operators) ∧
      c.operators.exactValue? last = some (-9223372036854775809) ∧
      ∃ e v w, p.getLast? = some e ∧ c.operators.exactValue? e = some v ∧ code.execute = .ok w ∧
        ∀ w' : Int64, w'.toInt ≡ v [ZMOD 2 ^ 64] ↔ w' = w :=
  ⟨rfl, by decide, rfl, execute_compile_modEq_exact rfl (by decide)⟩

end Compiler

end StackLisp
