/-
Laws of the machine: what one instruction does to a machine that has not trapped, that a trap is
final, and that a block is run part by part.
-/
import StackLisp.Code.Machine

namespace StackLisp

/-- The traps of operations, as opposed to those of ill-formed blocks. -/
def Trap.IsArithmetic (t : Trap) : Prop := t = .divideByZero ∨ t = .integerOverflow

/-- Division is the only operation that can fail. -/
theorem BinaryOp.of_apply_eq_error {op : BinaryOp} {l r : Int64} {t : Trap}
    (h : op.apply l r = .error t) : op = .divS ∧ t.IsArithmetic := by
  unfold BinaryOp.apply at h
  split at h
  · cases h
  · cases h
  · cases h
  · refine ⟨rfl, ?_⟩
    split at h
    · cases h; exact .inl rfl
    · split at h
      · cases h; exact .inr rfl
      · cases h

namespace Machine

/-! ## One instruction -/

theorem step_of_trap {m : Machine} {t : Trap} (h : m.trap? = some t) (i : Instr) : m.step i = m := by
  unfold step
  rw [h]

theorem step_const {m : Machine} (h : m.trap? = none) (v : Int64) :
    m.step (.const v) = ⟨v :: m.stack, m.executed + 1, none⟩ := by
  unfold step
  rw [h]

theorem step_drop {m : Machine} {v : Int64} {s : List Int64} (h : m.trap? = none)
    (hs : m.stack = v :: s) : m.step .drop = ⟨s, m.executed + 1, none⟩ := by
  unfold step
  rw [h, hs]

theorem step_binary_ok {m : Machine} {op : BinaryOp} {l r v : Int64} {s : List Int64}
    (h : m.trap? = none) (hs : m.stack = r :: l :: s) (hv : op.apply l r = .ok v) :
    m.step (.binary op) = ⟨v :: s, m.executed + 1, none⟩ := by
  unfold step
  simp only [h, hs, hv]

theorem step_binary_error {m : Machine} {op : BinaryOp} {l r : Int64} {s : List Int64} {t : Trap}
    (h : m.trap? = none) (hs : m.stack = r :: l :: s) (ht : op.apply l r = .error t) :
    m.step (.binary op) = ⟨s, m.executed + 1, some t⟩ := by
  unfold step
  simp only [h, hs, ht]

theorem step_underflow {m : Machine} {i : Instr} (h : m.trap? = none)
    (hs : m.stack.length < i.pops) :
    m.step i = ⟨[], m.executed + 1, some (.stackUnderflow m.executed)⟩ := by
  unfold step
  rw [h]
  cases i with
  | const v => cases hs
  | drop =>
    obtain hnil : m.stack = [] := List.length_eq_zero_iff.1 (Nat.lt_one_iff.1 hs)
    rw [hnil]
  | binary op =>
    cases hm : m.stack with
    | nil => rfl
    | cons r s =>
      have hl : m.stack.length < 2 := hs
      rw [hm, List.length_cons] at hl
      obtain rfl : s = [] := List.length_eq_zero_iff.1 (by omega)
      rfl

theorem exists_operands {m : Machine} (h : 2 ≤ m.stack.length) : ∃ r l s, m.stack = r :: l :: s := by
  obtain ⟨r, rest, hm⟩ := List.exists_cons_of_length_pos (Nat.lt_of_lt_of_le Nat.two_pos h)
  rw [hm] at h
  obtain ⟨l, s, hs⟩ := List.exists_cons_of_length_pos (Nat.le_of_succ_le_succ h)
  exact ⟨r, l, s, by rw [hm, hs]⟩

/-- What an instruction does to the height of the stack, or how it traps. -/
inductive Effect (m : Machine) (i : Instr) : Prop
  | underflow : m.stack.length < i.pops →
      (m.step i).trap? = some (.stackUnderflow m.executed) → Effect m i
  | runs : i.pops ≤ m.stack.length → (m.step i).trap? = none →
      (m.step i).executed = m.executed + 1 →
      (m.step i).stack.length = m.stack.length - i.pops + i.pushes → Effect m i
  | traps {t : Trap} : i = .binary .divS → i.pops ≤ m.stack.length → t.IsArithmetic →
      (m.step i).trap? = some t → Effect m i

theorem effect {m : Machine} (h : m.trap? = none) (i : Instr) : m.Effect i := by
  by_cases hs : m.stack.length < i.pops
  · exact .underflow hs (by rw [step_underflow h hs])
  have hs := Nat.le_of_not_lt hs
  cases i with
  | const v => exact .runs hs (by rw [step_const h]) (by rw [step_const h]) (by rw [step_const h]; rfl)
  | drop =>
    cases hm : m.stack with
    | nil => rw [hm] at hs; cases hs
    | cons v s =>
      have hstep := step_drop h hm
      exact .runs hs (by rw [hstep]) (by rw [hstep]) (by rw [hstep, hm]; rfl)
  | binary op =>
    obtain ⟨r, l, s, hm⟩ := exists_operands hs
    cases ha : op.apply l r with
    | ok v =>
      have hstep := step_binary_ok h hm ha
      exact .runs hs (by rw [hstep]) (by rw [hstep]) (by rw [hstep, hm]; rfl)
    | error t =>
      obtain ⟨rfl, ht⟩ := BinaryOp.of_apply_eq_error ha
      exact .traps rfl hs ht (by rw [step_binary_error h hm ha])

/-! ## Blocks -/

theorem run_append (m : Machine) (a b : Code) : m.run (a ++ b) = (m.run a).run b :=
  List.foldl_append

theorem run_cons (m : Machine) (i : Instr) (code : Code) : m.run (i :: code) = (m.step i).run code :=
  rfl

/-- A machine that has trapped takes up no further instruction. -/
theorem run_of_trap {m : Machine} {t : Trap} (h : m.trap? = some t) (code : Code) :
    m.run code = m := by
  induction code with
  | nil => rfl
  | cons i code ih => rw [run_cons, step_of_trap h, ih]

end Machine

end StackLisp
