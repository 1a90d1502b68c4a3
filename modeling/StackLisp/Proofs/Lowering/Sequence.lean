/-
Programs one after the other. The code of two programs put together is the code of the first, a drop
and the code of the second, and a fault of the first hides those of the second. After the drop the
stack is empty again, as it is on a fresh machine. Only the count of instructions is not, and no
outcome of lowered code shows that count. So the two programs run one after the other as well.
-/
import StackLisp.Proofs.Lowering.Meaning

namespace StackLisp

/-! ## Code -/

namespace Compiler

theorem result_lowerProgram_cons (c : Compiler) (e : Expr) {p : Program} (hp : p ≠ []) :
    (c.lowerProgram (e :: p)).result = (do
      let code ← (c.lower none 0 e).result
      let rest ← (c.lowerProgram p).result
      return code ++ .drop :: rest) := by
  rw [lowerProgram, Traced.bind_def, Traced.result_bind]
  · simp only [Traced.bind_def, Traced.result_bind]
    rfl
  · exact hp

/-- Lowering goes on behind the first program with a drop. -/
theorem result_lowerProgram_append (c : Compiler) {q : Program} (hq : q ≠ []) :
    ∀ p : Program, p ≠ [] → (c.lowerProgram (p ++ q)).result = (do
      let a ← (c.lowerProgram p).result
      let b ← (c.lowerProgram q).result
      return a ++ .drop :: b)
  | [], hp => absurd rfl hp
  | [e], _ => c.result_lowerProgram_cons e hq
  | e :: e' :: es, _ => by
    have ih := result_lowerProgram_append c hq (e' :: es) (List.cons_ne_nil _ _)
    rw [List.cons_append, result_lowerProgram_cons c e (by simp), ih,
      result_lowerProgram_cons c e (List.cons_ne_nil _ _)]
    -- both sides stop at the first of three parts that fails
    cases (c.lower none 0 e).result with
    | error err => rfl
    | ok code =>
      cases (c.lowerProgram (e' :: es)).result with
      | error err => rfl
      | ok rest =>
        cases (c.lowerProgram q).result with
        | error err => rfl
        | ok b =>
          show Except.ok (code ++ .drop :: (rest ++ .drop :: b)) =
            Except.ok ((code ++ .drop :: rest) ++ .drop :: b)
          simp

end Compiler

/-! ## Runs -/

/-- Two machines that show the same outcome over the empty stack finish alike. -/
theorem Machine.Shows.finish_unique {m m' : Machine} {r : Except Stop Int} (h : m.Shows [] r)
    (h' : m'.Shows [] r) : m.finish = m'.finish := by
  unfold Machine.finish
  rcases r with (t | _) | v
  · rw [h.1, h'.1]
  · exact absurd h id
  · obtain ⟨ht, w, hw, hs⟩ := h
    obtain ⟨ht', w', hw', hs'⟩ := h'
    have hww : w = w' := Int64.toInt_inj.1 (hw.trans hw'.symm)
    rw [ht, ht', hs, hs', hww]

/-- The code of one program, a drop and the code of another run as the two programs do. -/
theorem Compiler.LowersProgram.execute_append {c : Compiler} {p q : Program} {a b : Code}
    (hp : LowersProgram c p a) (hq : LowersProgram c q b) :
    Code.execute (a ++ .drop :: b) = (do let _ ← a.execute; b.execute) := by
  have ha := hp.shows (m := {}) rfl rfl
  unfold Code.execute
  rw [Machine.run_append]
  rcases hr : c.operators.evalProgram p with (t | _) | v
  · rw [hr] at ha
    have hf : (Machine.run {} a).finish = .error t := by unfold Machine.finish; rw [ha.1]
    rw [Machine.run_of_trap ha.1, hf]
    rfl
  · rw [hr] at ha
    exact absurd ha id
  · rw [hr] at ha
    obtain ⟨ht, w, -, hs⟩ := ha
    have hf : (Machine.run {} a).finish = .ok w := by unfold Machine.finish; rw [ht, hs]
    rw [Machine.run_cons, Machine.step_drop ht hs, hf]
    -- the second program starts on an empty stack, here and on a fresh machine
    exact (hq.shows rfl rfl).finish_unique (hq.shows rfl rfl)

/-- Programs that are put together are lowered and run one after the other. There is code for both
if there is code for each, and it is the code of the first, a drop and the code of the second;
otherwise the first program without code gives the error. The first program's trap is the outcome,
or else what the second program gives. -/
theorem Compiler.lowers_and_runs_piecewise (c : Compiler) {p q : Program} (hp : p ≠ [])
    (hq : q ≠ []) :
    (c.compile (p ++ q) = do
      let a ← c.compile p
      let b ← c.compile q
      return a ++ .drop :: b) ∧
    ∀ a b, c.compile p = .ok a → c.compile q = .ok b →
      Code.execute (a ++ .drop :: b) = (do let _ ← a.execute; b.execute) := by
  constructor
  · simp only [compile_eq_result]
    exact c.result_lowerProgram_append hq p hp
  · intro a b ha hb
    exact ((c.compile_eq_ok_iff p a).1 ha).execute_append ((c.compile_eq_ok_iff q b).1 hb)

/-- The last expression of the first program is followed by a drop, and the second program's trap is
the outcome although its own last expression has a value. -/
theorem Compiler.lowers_and_runs_piecewise_trapping :
    let c : Compiler := {}
    let p : Program := [.integer 1, .list [.atom "/", .integer 6, .integer 2]]
    let q : Program := [.list [.atom "/", .integer 7, .integer 0], .integer 5]
    let a : Code := [.const 1, .drop, .const 6, .const 2, .binary .divS]
    let b : Code := [.const 7, .const 0, .binary .divS, .drop, .const 5]
    p ≠ [] ∧ q ≠ [] ∧ c.compile p = .ok a ∧ c.compile q = .ok b ∧
      c.compile (p ++ q) = .ok (a ++ .drop :: b) ∧
      Code.execute (a ++ .drop :: b) = .error .divideByZero := by
  intro c p q a b
  have hp : p ≠ [] := List.cons_ne_nil _ _
  have hq : q ≠ [] := List.cons_ne_nil _ _
  obtain ⟨hcode, hrun⟩ := c.lowers_and_runs_piecewise hp hq
  refine ⟨hp, hq, rfl, rfl, hcode, ?_⟩
  rw [hrun a b rfl rfl]
  rfl

end StackLisp
