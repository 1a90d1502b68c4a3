/-
What programs mean, and that their code computes it. An expression is evaluated in exact integers:
an integer is its own value, and an application evaluates its first operand and then joins each
further operand to the value so far, the value so far on the left. Sums, differences and products
are wrapped to 64 bits; quotients go toward zero. The first trap on the way is the outcome.

Code that is run on any stack leaves the value on top of that stack or ends in the same trap. The
proof is a simulation along the lowering relation.
-/
import StackLisp.Proofs.Code.Machine
import StackLisp.Proofs.Lowering.Lowers

namespace StackLisp

/-! ## Reference evaluation -/

/-- Why an evaluation gives no value. -/
inductive Stop
  | trap (trap : Trap)
  /-- An expression that is no value and applies no operator, or a program without expressions. -/
  | meaningless
deriving DecidableEq, Repr

/-- The word that an integer wraps around to. -/
def wrapWord (n : Int) : Int := n.bmod 18446744073709551616

/-- The result of an operation in exact integers, wrapped to a word. -/
def BinaryOp.eval : BinaryOp → Int → Int → Except Stop Int
  | .add, l, r => .ok (wrapWord (l + r))
  | .sub, l, r => .ok (wrapWord (l - r))
  | .mul, l, r => .ok (wrapWord (l * r))
  | .divS, l, r =>
    if r = 0 then .error (.trap .divideByZero)
    else if l = -9223372036854775808 ∧ r = -1 then .error (.trap .integerOverflow)
    else .ok (l.tdiv r)

namespace OperatorTable

mutual

/-- The value of an expression. -/
def eval (t : OperatorTable) : Expr → Except Stop Int
  | .integer v => return v
  | .list (.atom name :: x :: xs) =>
    match t.get? name with
    | none => .error .meaningless
    | some o => do
      let acc ← t.eval x
      t.evalRest o.op acc xs
  | _ => .error .meaningless

/-- Joins further operands to the value so far, one after the other. -/
def evalRest (t : OperatorTable) (op : BinaryOp) (acc : Int) : List Expr → Except Stop Int
  | [] => return acc
  | x :: xs => do
    let v ← t.eval x
    let acc ← op.eval acc v
    t.evalRest op acc xs

end

/-- The value of the last of some expressions, all of which are evaluated. -/
def evalProgram (t : OperatorTable) : Program → Except Stop Int
  | [] => .error .meaningless
  | [e] => t.eval e
  | e :: es => do
    let _ ← t.eval e
    t.evalProgram es

end OperatorTable

/-! ## Words and integers -/

theorem toInt_ofInt_of_isWord {v : Int} (h : Compiler.isWord v = true) :
    (Int64.ofInt v).toInt = v := by
  obtain ⟨h1, h2⟩ := (Compiler.isWord_iff v).1 h
  exact Int64.toInt_ofInt_of_le h1 (by omega)

/-- The machine's operations are those on integers. -/
theorem BinaryOp.eval_toInt (op : BinaryOp) (l r : Int64) :
    op.eval l.toInt r.toInt = ((op.apply l r).map Int64.toInt).mapError .trap := by
  cases op with
  | add => exact congrArg Except.ok (Int64.toInt_add l r).symm
  | sub => exact congrArg Except.ok (Int64.toInt_sub l r).symm
  | mul => exact congrArg Except.ok (Int64.toInt_mul l r).symm
  | divS =>
    -- words are equal if their integers are, so both sides make the same tests
    have hr : r.toInt = 0 ↔ r = 0 := by rw [← Int64.toInt_inj]; rfl
    have hl : l.toInt = -9223372036854775808 ↔ l = Int64.minValue := by rw [← Int64.toInt_inj]; rfl
    have hn : r.toInt = -1 ↔ r = -1 := by rw [← Int64.toInt_inj]; rfl
    unfold BinaryOp.eval BinaryOp.apply
    simp only [hr, hl, hn]
    split
    · rfl
    · split
      · rfl
      · rename_i hmin
        -- the one quotient of words that is not a word has just been ruled out
        have hdiv : (l / r).toInt = l.toInt.tdiv r.toInt := by
          by_cases hlm : l = Int64.minValue
          · exact Int64.toInt_div_of_ne_right l r fun h => hmin ⟨hlm, h⟩
          · exact Int64.toInt_div_of_ne_left l r hlm
        exact congrArg Except.ok hdiv.symm

/-! ## Running code -/

/-- A machine shows the outcome of an evaluation over the stack `s`: the value is on top of `s`, or
the machine is stopped by the trap. -/
def Machine.Shows (m : Machine) (s : List Int64) : Except Stop Int → Prop
  | .ok v => m.trap? = none ∧ ∃ w : Int64, w.toInt = v ∧ m.stack = w :: s
  | .error (.trap t) => m.trap? = some t ∧ t.IsArithmetic
  | .error .meaningless => False

/-- A trap is the outcome of all further code; after a value, it is enough to look at that code on
the stack with the value. -/
theorem Machine.Shows.andThen {m : Machine} {s s' : List Int64} {r : Except Stop Int}
    (h : m.Shows s r) {code : Code} {next : Int → Except Stop Int}
    (hv : ∀ w : Int64, m.trap? = none → m.stack = w :: s → (m.run code).Shows s' (next w.toInt)) :
    (m.run code).Shows s' (r >>= next) := by
  match r, h with
  | .ok _, ⟨ht, w, rfl, hs⟩ => exact hv w ht hs
  | .error (.trap t), h => rw [run_of_trap h.1]; exact h

namespace Compiler

mutual

/-- The code of an expression leaves the value of the expression on top of any stack. -/
theorem Lowers.shows {c : Compiler} : ∀ {depth : Nat} {e : Expr} {code : Code},
    Lowers c depth e code → ∀ {m : Machine}, m.trap? = none →
      (m.run code).Shows m.stack (c.operators.eval e)
  | _, _, _, .integer hv, m, hm => by
    rw [Machine.run_cons, Machine.step_const hm, OperatorTable.eval]
    exact ⟨rfl, _, toInt_ofInt_of_isWord hv, rfl⟩
  | _, _, _, .application _ ho _ hx hxs, m, hm => by
    rw [Machine.run_append, OperatorTable.eval, ho]
    exact (hx.shows hm).andThen fun w ht hs => hxs.shows ht hs

/-- The code of further operands joins them to the value on top of any stack. -/
theorem LowersRest.shows {c : Compiler} : ∀ {depth : Nat} {op : BinaryOp} {xs : List Expr}
    {code : Code}, LowersRest c depth op xs code → ∀ {m : Machine} {w : Int64} {s : List Int64},
      m.trap? = none → m.stack = w :: s →
      (m.run code).Shows s (c.operators.evalRest op w.toInt xs)
  | _, _, _, _, .nil, m, w, s, hm, hs => ⟨hm, w, rfl, hs⟩
  | _, op, _, _, .cons hx hxs, m, w, s, hm, hs => by
    rw [Machine.run_append, OperatorTable.evalRest]
    refine (hx.shows hm).andThen fun v ht hs' => ?_
    -- the operand now lies on the value so far, which makes it the right one of the two
    rw [hs] at hs'
    rw [Machine.run_cons, BinaryOp.eval_toInt]
    cases ha : op.apply w v with
    | error t =>
      rw [Machine.step_binary_error ht hs' ha, Machine.run_of_trap rfl]
      exact ⟨rfl, (BinaryOp.of_apply_eq_error ha).2⟩
    | ok r =>
      rw [Machine.step_binary_ok ht hs' ha]
      exact hxs.shows rfl rfl

end

/-- The code of a program leaves the value of the program on an empty stack. -/
theorem LowersProgram.shows {c : Compiler} {p : Program} {code : Code}
    (h : LowersProgram c p code) : ∀ {m : Machine}, m.trap? = none → m.stack = [] →
      (m.run code).Shows [] (c.operators.evalProgram p) := by
  induction h with
  | last he =>
    intro m hm hs
    rw [OperatorTable.evalProgram, ← hs]
    exact he.shows hm
  | @cons e p code rest he hp ih =>
    intro m hm hs
    rw [Machine.run_append, OperatorTable.evalProgram]
    · refine (he.shows hm).andThen fun w ht hs' => ?_
      -- once the value is dropped, the rest starts on the empty stack again
      rw [hs] at hs'
      rw [Machine.run_cons, Machine.step_drop ht hs']
      exact ih rfl rfl
    · rintro rfl; cases hp

end Compiler

theorem Machine.Shows.finish_eq {m : Machine} {r : Except Stop Int} (h : m.Shows [] r) :
    r = (m.finish.map Int64.toInt).mapError .trap ∧
      ∀ t, m.finish = .error t → t.IsArithmetic := by
  match r, h with
  | .ok _, ⟨ht, w, rfl, hs⟩ =>
    have hf : m.finish = .ok w := by unfold Machine.finish; rw [ht, hs]
    rw [hf]
    exact ⟨rfl, fun t h' => (by cases h')⟩
  | .error (.trap t), ⟨ht, ha⟩ =>
    have hf : m.finish = .error t := by unfold Machine.finish; rw [ht]
    rw [hf]
    exact ⟨rfl, fun t' h' => by cases h'; exact ha⟩

/-- Lowering keeps the meaning of programs. If a program has code then running the code gives what
evaluating the program gives, value or trap, and no trap is one of an ill-formed block. -/
theorem Compiler.execute_compile_eq_eval {c : Compiler} {p : Program} {code : Code}
    (h : c.compile p = .ok code) :
    (code.execute.map Int64.toInt).mapError .trap = c.operators.evalProgram p ∧
      (∀ index, code.execute ≠ .error (.stackUnderflow index)) ∧
      ∀ depth, code.execute ≠ .error (.unbalancedStack depth) := by
  have hs := ((c.compile_eq_ok_iff p code).1 h).shows (m := {}) rfl rfl
  obtain ⟨heq, harith⟩ := hs.finish_eq
  refine ⟨heq.symm, fun index hu => ?_, fun depth hu => ?_⟩
  · obtain h | h := harith _ hu <;> cases h
  · obtain h | h := harith _ hu <;> cases h

/-- A sum that wraps around and is dropped, then a division by a difference that is zero. -/
theorem Compiler.execute_compile_eq_eval_trapping :
    let c : Compiler := {}
    let p : Program := [.list [.atom "+", .integer 9223372036854775807, .integer 1],
      .list [.atom "/", .integer 1, .list [.atom "-", .integer 5, .integer 5]]]
    let code : Code := [.const 9223372036854775807, .const 1, .binary .add, .drop,
      .const 1, .const 5, .const 5, .binary .sub, .binary .divS]
    c.compile p = .ok code ∧
      (code.execute.map Int64.toInt).mapError .trap = c.operators.evalProgram p ∧
      (∀ index, code.execute ≠ .error (.stackUnderflow index)) ∧
      ∀ depth, code.execute ≠ .error (.unbalancedStack depth) :=
  ⟨rfl, execute_compile_eq_eval rfl⟩

end StackLisp
