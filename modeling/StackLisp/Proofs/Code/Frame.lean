/-
What lies below. An instruction works on the top of the stack: with enough values there, it does the
same whatever lies below them, also when it traps, and what lies below stays. An underflow alone can
tell, since it comes up where the values end. So a block runs on top of more values as it runs without
them exactly if it does not underflow: it ends with the same values on top, or the same division stops
it with the same trap.
-/
import StackLisp.Proofs.Code.Traps

namespace StackLisp.Machine

/-- The machine with more values below those on its stack. -/
def above (m : Machine) (below : List Int64) : Machine := { m with stack := m.stack ++ below }

@[simp] theorem stack_above (m : Machine) (below : List Int64) :
    (m.above below).stack = m.stack ++ below := rfl

@[simp] theorem trap?_above (m : Machine) (below : List Int64) :
    (m.above below).trap? = m.trap? := rfl

@[simp] theorem above_nil (m : Machine) : m.above [] = m := by
  unfold above
  rw [List.append_nil]

/-! ## Underflows -/

/-- The machine has been stopped by an instruction that found too few values. -/
def Underflowed (m : Machine) : Prop := ∃ index, m.trap? = some (.stackUnderflow index)

theorem Underflowed.run {m : Machine} (h : m.Underflowed) (code : Code) :
    (m.run code).Underflowed := by
  obtain ⟨index, ht⟩ := h
  rw [run_of_trap ht]
  exact ⟨index, ht⟩

/-- A block that does not underflow has no beginning that does. -/
theorem not_underflowed_take {m : Machine} {code : Code} (h : ¬ (m.run code).Underflowed) (k : Nat) :
    ¬ (m.run (code.take k)).Underflowed := by
  intro hu
  have hrun := hu.run (code.drop k)
  rw [← run_append, List.take_append_drop] at hrun
  exact h hrun

theorem not_underflowed_of_isArithmetic {m : Machine} {t : Trap} (ht : m.trap? = some t)
    (ha : t.IsArithmetic) : ¬ m.Underflowed := by
  rintro ⟨index, hu⟩
  rw [ht] at hu
  cases hu
  obtain h | h := ha <;> cases h

/-- An underflow takes all that is left. -/
theorem stack_of_underflowed {m : Machine} {code : Code} (hm : m.trap? = none)
    (hu : (m.run code).Underflowed) : (m.run code).stack = [] := by
  obtain ⟨index, ht⟩ := hu
  obtain ⟨k, hk⟩ := exists_trapsAt hm (by rw [ht]; simp)
  obtain ⟨i, hi, hc⟩ := hk.exists_cause ht
  have htake : code.take (k + 1) = code.take k ++ [i] := by rw [List.take_add_one, hi]; rfl
  cases hc with
  | underflow hs => rw [hk.run_eq, htake, run_append, run_cons, step_underflow hk.before hs]; rfl

/-! ## Running above more values -/

/-- An instruction that does not underflow leaves what lies below in its place. -/
theorem step_above {m : Machine} {i : Instr} (h : ¬ (m.step i).Underflowed) (below : List Int64) :
    (m.above below).step i = (m.step i).above below := by
  cases hm : m.trap? with
  | some t => rw [step_of_trap hm, step_of_trap (m.trap?_above below ▸ hm)]
  | none =>
    have ha : (m.above below).trap? = none := hm
    have hs : i.pops ≤ m.stack.length := by
      refine Nat.le_of_not_lt fun hlt => h ⟨m.executed, ?_⟩
      rw [step_underflow hm hlt]
    -- the operands are found in the upper part of the longer stack
    cases i with
    | const v => rw [step_const hm, step_const ha]; rfl
    | drop =>
      obtain ⟨v, s, hv⟩ := List.exists_cons_of_length_pos hs
      have hv' : (m.above below).stack = v :: (s ++ below) := by rw [stack_above, hv]; rfl
      rw [step_drop hm hv, step_drop ha hv']
      rfl
    | binary op =>
      obtain ⟨r, l, s, hv⟩ := exists_operands hs
      have hv' : (m.above below).stack = r :: l :: (s ++ below) := by rw [stack_above, hv]; rfl
      cases hop : op.apply l r with
      | ok v => rw [step_binary_ok hm hv hop, step_binary_ok ha hv' hop]; rfl
      | error t => rw [step_binary_error hm hv hop, step_binary_error ha hv' hop]; rfl

theorem run_above {code : Code} (below : List Int64) : ∀ {m : Machine},
    ¬ (m.run code).Underflowed → (m.above below).run code = (m.run code).above below := by
  induction code with
  | nil => intro m _; rfl
  | cons i code ih =>
    intro m h
    have hstep : ¬ (m.step i).Underflowed := fun hu => h (hu.run code)
    rw [run_cons, step_above hstep, ih h, run_cons]

/-- A block runs above more values as it runs without them exactly if it does not underflow, or if
there are none after all. -/
theorem run_above_iff {m : Machine} (hm : m.trap? = none) {code : Code} {below : List Int64} :
    (m.above below).run code = (m.run code).above below ↔
      below = [] ∨ ¬ (m.run code).Underflowed := by
  constructor
  · intro h
    by_cases hu : (m.run code).Underflowed
    · -- both runs underflow then, and an underflow leaves no value, not even those below
      have hu' : ((m.above below).run code).Underflowed := h ▸ hu
      have hstack := stack_of_underflowed (m.trap?_above below ▸ hm) hu'
      rw [h, stack_above, stack_of_underflowed hm hu, List.nil_append] at hstack
      exact .inl hstack
    · exact .inr hu
  · rintro (rfl | hu)
    · rw [above_nil, above_nil]
    · exact run_above below hu

example : (run {} [.drop]).trap? = some (.stackUnderflow 0) ∧
    ((above {} [5]).run [.drop]).trap? = none := by decide

/-- A machine above more values traps where it traps without them. -/
theorem trapsAt_above_iff {m : Machine} {code : Code} (h : ¬ (m.run code).Underflowed)
    (below : List Int64) {k : Nat} : (m.above below).TrapsAt code k ↔ m.TrapsAt code k := by
  have htrap (j : Nat) :
      ((m.above below).run (code.take j)).trap? = (m.run (code.take j)).trap? := by
    rw [run_above below (not_underflowed_take h j), trap?_above]
  constructor
  · rintro ⟨hbefore, hafter⟩
    exact ⟨htrap k ▸ hbefore, htrap (k + 1) ▸ hafter⟩
  · rintro ⟨hbefore, hafter⟩
    exact ⟨htrap k ▸ hbefore, htrap (k + 1) ▸ hafter⟩

/-- A block does not touch what lies below the values that it needs. If it runs on a stack without a
trap then it runs on that stack with any values below it, and these are found below the values that it
leaves. If a division traps then it traps above any values too, and it is the same division. Stacks have
their top first here, so what lies below is put behind. -/
theorem values_below_untouched (code : Code) (s below : List Int64) :
    (∀ t, (run { stack := s } code).trap? = none → (run { stack := s } code).stack = t →
      (run { stack := s ++ below } code).trap? = none ∧
        (run { stack := s ++ below } code).stack = t ++ below) ∧
    ∀ trap, trap.IsArithmetic → (run { stack := s } code).trap? = some trap →
      (run { stack := s ++ below } code).trap? = some trap ∧
        (∃! k, TrapsAt { stack := s } code k) ∧
        ∀ k, TrapsAt { stack := s ++ below } code k ↔ TrapsAt { stack := s } code k := by
  have hrun (hu : ¬ (run { stack := s } code).Underflowed) :
      run { stack := s ++ below } code = (run { stack := s } code).above below :=
    (run_above_iff rfl).2 (.inr hu)
  constructor
  · rintro t htrap rfl
    rw [hrun (by simp [Underflowed, htrap])]
    exact ⟨htrap, rfl⟩
  · intro trap ha htrap
    have hu := not_underflowed_of_isArithmetic htrap ha
    obtain ⟨k, hk⟩ := exists_trapsAt (m := { stack := s }) rfl (by rw [htrap]; simp)
    rw [hrun hu]
    exact ⟨htrap, ⟨k, hk, fun j hj => hk.unique hj⟩, fun j => trapsAt_above_iff hu below⟩

/-- The one quotient that is no word, above two more values. The drops behind the division would find
them, but they are not taken up any more. -/
theorem values_below_untouched_overflow :
    let code : Code := [.const 1, .binary .sub]
    let more : Code := [.binary .divS, .drop, .drop]
    (run { stack := [0, Int64.minValue] } code).trap? = none ∧
      (run { stack := [0, Int64.minValue, 9, 8] } code).trap? = none ∧
      (run { stack := [0, Int64.minValue, 9, 8] } code).stack = [-1, Int64.minValue, 9, 8] ∧
      (run { stack := [0, Int64.minValue] } (code ++ more)).trap? = some .integerOverflow ∧
      (run { stack := [0, Int64.minValue, 9, 8] } (code ++ more)).trap? = some .integerOverflow ∧
      TrapsAt { stack := [0, Int64.minValue, 9, 8] } (code ++ more) 2 := by
  intro code more
  have hnone : (run { stack := [0, Int64.minValue] } code).trap? = none := by decide
  have hsome : (run { stack := [0, Int64.minValue] } (code ++ more)).trap? = some .integerOverflow := by
    decide
  have hk : TrapsAt { stack := [0, Int64.minValue] } (code ++ more) 2 := ⟨by decide, by decide⟩
  obtain ⟨hruns, -⟩ := values_below_untouched code [0, Int64.minValue] [9, 8]
  obtain ⟨-, htraps⟩ := values_below_untouched (code ++ more) [0, Int64.minValue] [9, 8]
  obtain ⟨ht, hs⟩ := hruns [-1, Int64.minValue] hnone (by decide)
  obtain ⟨ht', -, hat⟩ := htraps .integerOverflow (.inr rfl) hsome
  exact ⟨hnone, ht, hs, hsome, ht', (hat 2).2 hk⟩

end StackLisp.Machine
