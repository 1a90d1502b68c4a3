/-
Where a machine traps. A fresh machine counts the instructions that it has taken up, and as long as it
has not trapped the count is the position of the next one. The first instruction that finds too few
values, or that divides by zero or overflows, stops the machine, and whatever comes after it leaves
the machine as it is. So a trap has one position in the block, and the stack before that position
shows why it came up.
-/
import Mathlib.Logic.ExistsUnique
import StackLisp.Proofs.Code.Machine

namespace StackLisp

/-- Division fails at a zero divisor, and at the one quotient that is no word. -/
theorem BinaryOp.apply_eq_error_iff {op : BinaryOp} {l r : Int64} {t : Trap} :
    op.apply l r = .error t ↔ op = .divS ∧
      (t = .divideByZero ∧ r = 0 ∨ t = .integerOverflow ∧ l = Int64.minValue ∧ r = -1) := by
  constructor
  · intro h
    obtain ⟨rfl, -⟩ := of_apply_eq_error h
    refine ⟨rfl, ?_⟩
    simp only [BinaryOp.apply] at h
    split at h
    · rename_i hr; cases h; exact .inl ⟨rfl, hr⟩
    · split at h
      · rename_i hlr; cases h; exact .inr ⟨rfl, hlr⟩
      · cases h
  · rintro ⟨rfl, ⟨rfl, rfl⟩ | ⟨rfl, rfl, rfl⟩⟩
    · rfl
    · rfl

namespace Machine

/-! ## Why an instruction traps -/

/-- Why the instruction `i` at a position raises a trap on a stack. -/
inductive Cause (stack : List Int64) (position : Nat) (i : Instr) : Trap → Prop
  | underflow : stack.length < i.pops → Cause stack position i (.stackUnderflow position)
  | zeroDivisor {l : Int64} {s : List Int64} : i = .binary .divS → stack = 0 :: l :: s →
      Cause stack position i .divideByZero
  | overflow {s : List Int64} : i = .binary .divS → stack = -1 :: Int64.minValue :: s →
      Cause stack position i .integerOverflow

/-- An instruction raises a trap for these causes and for no others. -/
theorem trap?_step_eq_some_iff {m : Machine} (h : m.trap? = none) {i : Instr} {t : Trap} :
    (m.step i).trap? = some t ↔ Cause m.stack m.executed i t := by
  constructor
  · intro ht
    by_cases hs : m.stack.length < i.pops
    · rw [step_underflow h hs] at ht
      cases ht
      exact .underflow hs
    -- with enough values on the stack, only an operation can fail
    cases i with
    | const v => rw [step_const h] at ht; cases ht
    | drop =>
      obtain ⟨v, s, hm⟩ := List.exists_cons_of_length_pos (Nat.le_of_not_lt hs)
      rw [step_drop h hm] at ht
      cases ht
    | binary op =>
      obtain ⟨r, l, s, hm⟩ := exists_operands (Nat.le_of_not_lt hs)
      cases ha : op.apply l r with
      | ok v => rw [step_binary_ok h hm ha] at ht; cases ht
      | error t' =>
        rw [step_binary_error h hm ha] at ht
        cases ht
        obtain ⟨rfl, ⟨rfl, rfl⟩ | ⟨rfl, rfl, rfl⟩⟩ := BinaryOp.apply_eq_error_iff.1 ha
        · exact .zeroDivisor rfl hm
        · exact .overflow rfl hm
  · rintro (hs | ⟨rfl, hm⟩ | ⟨rfl, hm⟩)
    · rw [step_underflow h hs]
    · rw [step_binary_error h hm (BinaryOp.apply_eq_error_iff.2 ⟨rfl, .inl ⟨rfl, rfl⟩⟩)]
    · rw [step_binary_error h hm (BinaryOp.apply_eq_error_iff.2 ⟨rfl, .inr ⟨rfl, rfl, rfl⟩⟩)]

/-! ## Positions of a run -/

/-- A machine that has not trapped has not trapped before either. -/
theorem trap?_of_run {m : Machine} {code : Code} (h : (m.run code).trap? = none) :
    m.trap? = none := by
  cases ht : m.trap? with
  | none => rfl
  | some t => rw [run_of_trap ht, ht] at h; cases h

theorem executed_run {code : Code} : ∀ {m : Machine}, (m.run code).trap? = none →
    (m.run code).executed = m.executed + code.length := by
  induction code with
  | nil => intro m _; rfl
  | cons i code ih =>
    intro m h
    have hstep : (m.step i).trap? = none := trap?_of_run h
    have hone : (m.run [i]).trap? = none := hstep
    have hm : m.trap? = none := trap?_of_run hone
    cases effect hm i with
    | underflow _ ht => rw [hstep] at ht; cases ht
    | traps _ _ _ ht => rw [hstep] at ht; cases ht
    | runs _ _ he _ =>
      rw [run_cons, ih h, he, List.length_cons]
      omega

/-- The machine `m` takes up the instruction at position `k` of a block and traps at it. -/
structure TrapsAt (m : Machine) (code : Code) (k : Nat) : Prop where
  before : (m.run (code.take k)).trap? = none
  after : (m.run (code.take (k + 1))).trap? ≠ none

theorem exists_trapsAt {code : Code} : ∀ {m : Machine}, m.trap? = none →
    (m.run code).trap? ≠ none → ∃ k, m.TrapsAt code k := by
  induction code with
  | nil => intro m hm h; exact absurd hm h
  | cons i code ih =>
    intro m hm h
    by_cases hstep : (m.step i).trap? = none
    · obtain ⟨k, hbefore, hafter⟩ := ih hstep h
      exact ⟨k + 1, hbefore, hafter⟩
    · exact ⟨0, hm, hstep⟩

namespace TrapsAt

variable {m : Machine} {code : Code} {k : Nat}

/-- Whatever follows the instruction that traps leaves the machine as it is. -/
theorem run_append (h : m.TrapsAt code k) (more : Code) :
    m.run (code.take (k + 1) ++ more) = m.run (code.take (k + 1)) := by
  obtain ⟨t, ht⟩ := Option.ne_none_iff_exists'.1 h.after
  rw [Machine.run_append, run_of_trap ht]

theorem run_eq (h : m.TrapsAt code k) : m.run code = m.run (code.take (k + 1)) := by
  have hrun := h.run_append (code.drop (k + 1))
  rwa [List.take_append_drop] at hrun

theorem run_take (h : m.TrapsAt code k) {j : Nat} (hj : k < j) :
    m.run (code.take j) = m.run (code.take (k + 1)) := by
  have hrun := h.run_append ((code.take j).drop (k + 1))
  have htake : code.take (k + 1) = (code.take j).take (k + 1) := by
    rw [List.take_take, Nat.min_eq_left hj]
  rwa [htake, List.take_append_drop, ← htake] at hrun

theorem unique {j : Nat} (h : m.TrapsAt code k) (hj : m.TrapsAt code j) : j = k := by
  rcases Nat.lt_trichotomy j k with hlt | heq | hlt
  · exact absurd (hj.run_take hlt ▸ h.before) hj.after
  · exact heq
  · exact absurd (h.run_take hlt ▸ hj.before) h.after

/-- The trap has its cause in the instruction at the position and in the stack before it. -/
theorem exists_cause (h : m.TrapsAt code k) {t : Trap} (ht : (m.run code).trap? = some t) :
    ∃ i, code[k]? = some i ∧ Cause (m.run (code.take k)).stack (m.executed + k) i t := by
  have hk : k < code.length := by
    refine Nat.lt_of_not_le fun hge => h.after ?_
    rw [List.take_of_length_le (Nat.le_succ_of_le hge), ← List.take_of_length_le hge]
    exact h.before
  refine ⟨code[k], List.getElem?_eq_getElem hk, ?_⟩
  have hlen : (code.take k).length = k := List.length_take_of_le (Nat.le_of_lt hk)
  have hcount := executed_run h.before
  rw [h.run_eq, List.take_succ_eq_append_getElem hk, Machine.run_append] at ht
  rw [hlen] at hcount
  rw [← hcount]
  exact (trap?_step_eq_some_iff h.before).1 ht

end TrapsAt

/-- The first trap is final, and it is known where it comes from. If a fresh machine has trapped after
a block, there is exactly one position at which it did. Whatever is fed to it behind that position,
its state stays as it is there, and finishing reports the trap, under any name, since finishing looks
at none. An underflow carries the position, and the instruction there pops more values than the
instructions before it left; any other trap is that of a division whose operands are on top of the
stack. -/
theorem first_trap_final_and_located {code : Code} {t : Trap}
    (h : (run {} code).trap? = some t) :
    (∃! k, TrapsAt {} code k) ∧
    ∀ k, TrapsAt {} code k →
      (∀ more, run {} (code.take (k + 1) ++ more) = run {} (code.take (k + 1)) ∧
        (run {} (code.take (k + 1) ++ more)).trap? = some t ∧
        (run {} (code.take (k + 1) ++ more)).finish = .error t) ∧
      ∃ i, code[k]? = some i ∧ Cause (run {} (code.take k)).stack k i t := by
  constructor
  · obtain ⟨k, hk⟩ := exists_trapsAt (m := {}) rfl (by rw [h]; simp)
    exact ⟨k, hk, fun j hj => hk.unique hj⟩
  · intro k hk
    refine ⟨fun more => ?_, ?_⟩
    · have ht : (run {} (code.take (k + 1))).trap? = some t := by rw [← hk.run_eq, h]
      rw [hk.run_append]
      refine ⟨rfl, ht, ?_⟩
      unfold finish
      rw [ht]
    · obtain ⟨i, hi, hc⟩ := hk.exists_cause h
      rw [Nat.zero_add] at hc
      exact ⟨i, hi, hc⟩

/-- An addition with one operand only. The division by zero behind it is not taken up any more. -/
theorem first_trap_final_and_located_underflow :
    let code : Code := [.const 4, .drop, .const 3, .binary .add, .const 1, .const 0, .binary .divS]
    (run {} code).trap? = some (.stackUnderflow 3) ∧ (∃! k, TrapsAt {} code k) ∧
      TrapsAt {} code 3 ∧ (run {} code).finish = .error (.stackUnderflow 3) ∧
      ∃ i, code[3]? = some i ∧ Cause [3] 3 i (.stackUnderflow 3) := by
  intro code
  have ht : (run {} code).trap? = some (.stackUnderflow 3) := by decide
  have hk : TrapsAt {} code 3 := ⟨by decide, by decide⟩
  obtain ⟨hunique, hall⟩ := first_trap_final_and_located ht
  obtain ⟨hfinal, hcause⟩ := hall 3 hk
  exact ⟨ht, hunique, hk, (hfinal [.const 1, .const 0, .binary .divS]).2.2, hcause⟩

end Machine

end StackLisp
