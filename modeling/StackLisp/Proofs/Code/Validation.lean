/-
The discipline of the stack, checked by heights and seen by the machine. Checking a block knows only
the height of the stack; running it knows the values. As long as no division fails, the machine's
stack is as high as the check says, so that both find the same underflow or the same number of values
at the end. A division that fails ends a run early and hides what comes after it.
-/
import StackLisp.Code.Module
import StackLisp.Proofs.Code.Machine

namespace StackLisp

namespace Machine

/-! ## Divisions that fail -/

/-- Run on the machine `m`, the block comes to the division at `index`, which raises the trap. -/
structure DivisionTraps (m : Machine) (code : Code) (index : Nat) (trap : Trap) : Prop where
  division : code[index]? = some (.binary .divS)
  before : (m.run (code.take index)).trap? = none
  raised : (m.run (code.take (index + 1))).trap? = some trap
  arithmetic : trap.IsArithmetic

namespace DivisionTraps

variable {m : Machine} {code : Code} {trap : Trap}

theorem zero (hm : m.trap? = none) (ht : (m.step (.binary .divS)).trap? = some trap)
    (ha : trap.IsArithmetic) (code : Code) : m.DivisionTraps (.binary .divS :: code) 0 trap :=
  ⟨rfl, hm, ht, ha⟩

theorem succ {i : Instr} {index : Nat} (h : (m.step i).DivisionTraps code index trap) :
    m.DivisionTraps (i :: code) (index + 1) trap :=
  ⟨h.division, h.before, h.raised, h.arithmetic⟩

/-- The trap of a division is that of the whole run. -/
theorem trap_run {index : Nat} (h : m.DivisionTraps code index trap) :
    (m.run code).trap? = some trap := by
  rw [← List.take_append_drop (index + 1) code, run_append, run_of_trap h.raised, h.raised]

end DivisionTraps

/-! ## Heights along a run -/

/-- What the heights say about a block, and what the block does on the machine `m`. -/
inductive Agrees (m : Machine) (code : Code) : Except ValidationError Nat → Prop
  | finishes {height : Nat} : (m.run code).trap? = none → (m.run code).stack.length = height →
      Agrees m code (.ok height)
  | underflows {k : Nat} {instr : Instr} : code[k]? = some instr →
      (m.run code).trap? = some (.stackUnderflow (m.executed + k)) →
      Agrees m code (.error (.stackUnderflow (m.executed + k) instr))
  | trapsFirst {height index : Nat} {trap : Trap} : m.DivisionTraps code index trap →
      Agrees m code (.ok height)
  | trapsBefore {k index : Nat} {instr : Instr} {trap : Trap} : code[k]? = some instr →
      index < k → m.DivisionTraps code index trap →
      Agrees m code (.error (.stackUnderflow (m.executed + k) instr))

theorem Agrees.cons {m : Machine} {i : Instr} {code : Code} {r : Except ValidationError Nat}
    (h : (m.step i).Agrees code r) (he : (m.step i).executed = m.executed + 1) :
    m.Agrees (i :: code) r := by
  have hk : ∀ k, (m.step i).executed + k = m.executed + (k + 1) := by intro k; omega
  cases h with
  | finishes ht hl => exact .finishes ht hl
  | underflows hc ht => rw [hk] at ht ⊢; exact .underflows hc ht
  | trapsFirst hd => exact .trapsFirst hd.succ
  | trapsBefore hc hlt hd => rw [hk]; exact .trapsBefore hc (Nat.succ_lt_succ hlt) hd.succ

end Machine

namespace Code

theorem heightFrom_underflow {i : Instr} {height : Nat} (h : height < i.pops) (index : Nat)
    (code : Code) : heightFrom index height (i :: code) = .error (.stackUnderflow index i) := by
  rw [heightFrom, if_pos h]

theorem heightFrom_cons {i : Instr} {height : Nat} (h : i.pops ≤ height) (index : Nat)
    (code : Code) : heightFrom index height (i :: code) =
      heightFrom (index + 1) (height - i.pops + i.pushes) code := by
  rw [heightFrom, if_neg (Nat.not_lt_of_le h)]

/-- The only fault that heights show is an underflow, at an instruction of the block. -/
theorem eq_stackUnderflow_of_heightFrom {code : Code} : ∀ {index height : Nat}
    {e : ValidationError}, heightFrom index height code = .error e →
      ∃ k instr, code[k]? = some instr ∧ e = .stackUnderflow (index + k) instr := by
  induction code with
  | nil => intro index height e h; cases h
  | cons i code ih =>
    intro index height e h
    by_cases hi : height < i.pops
    · rw [heightFrom_underflow hi] at h
      cases h
      exact ⟨0, i, rfl, rfl⟩
    · rw [heightFrom_cons (Nat.le_of_not_lt hi)] at h
      obtain ⟨k, instr, hc, rfl⟩ := ih h
      exact ⟨k + 1, instr, hc, by rw [Nat.add_assoc, Nat.add_comm 1 k]⟩

/-- The heights of a block agree with a run of it on a machine that has not trapped. -/
theorem agrees_heightFrom (code : Code) : ∀ {m : Machine}, m.trap? = none →
    m.Agrees code (heightFrom m.executed m.stack.length code) := by
  induction code with
  | nil => intro m hm; exact .finishes hm rfl
  | cons i code ih =>
    intro m hm
    cases Machine.effect hm i with
    | underflow hlt ht =>
      rw [heightFrom_underflow hlt]
      have hrun : (m.run (i :: code)).trap? = some (.stackUnderflow (m.executed + 0)) := by
        rw [Machine.run_cons, Machine.run_of_trap ht, ht]
        rfl
      exact .underflows rfl hrun
    | runs hle ht he hl =>
      rw [heightFrom_cons hle, ← he, ← hl]
      exact (ih ht).cons he
    | traps hi hle ha ht =>
      rw [heightFrom_cons hle]
      subst hi
      have hd := Machine.DivisionTraps.zero hm ht ha code
      -- the heights of the rest go on as if the division had a value
      cases hr : heightFrom (m.executed + 1) _ code with
      | ok height => exact .trapsFirst hd
      | error e =>
        obtain ⟨k, instr, hc, rfl⟩ := eq_stackUnderflow_of_heightFrom hr
        rw [Nat.add_assoc, Nat.add_comm 1 k]
        exact .trapsBefore hc (Nat.succ_pos k) hd

/-! ## Outcomes -/

theorem execute_of_trap {code : Code} {t : Trap} (h : (Machine.run {} code).trap? = some t) :
    code.execute = .error t := by
  unfold execute Machine.finish
  rw [h]

theorem exists_execute_eq_ok {code : Code} (ht : (Machine.run {} code).trap? = none)
    (hl : (Machine.run {} code).stack.length = 1) : ∃ v, code.execute = .ok v := by
  obtain ⟨v, hv⟩ := List.length_eq_one_iff.1 hl
  refine ⟨v, ?_⟩
  unfold execute Machine.finish
  rw [ht, hv]

theorem execute_of_length_ne_one {code : Code} {height : Nat}
    (ht : (Machine.run {} code).trap? = none) (hl : (Machine.run {} code).stack.length = height)
    (h1 : height ≠ 1) : code.execute = .error (.unbalancedStack height) := by
  unfold execute Machine.finish
  rw [ht]
  split
  · rename_i hc; cases hc
  · rename_i v hv; rw [hv] at hl; exact absurd hl.symm h1
  · rw [hl]

/-- A run of the block ends at the division at `index`, with the trap that the division raises. -/
def EndsInDivision (code : Code) (index : Nat) : Prop :=
  ∃ t, Machine.DivisionTraps {} code index t ∧ code.execute = .error t

/-- What becomes of a block: what is said when it is made a module under a name, and how it runs. -/
inductive Outcome (code : Code) (name : String) : Prop
  | underflow {i : Nat} {instr : Instr} : code[i]? = some instr →
      code.toModule name = .error (.stackUnderflow i instr) →
      (code.execute = .error (.stackUnderflow i) ∨ ∃ j < i, code.EndsInDivision j) →
      Outcome code name
  | unbalanced {d : Nat} : code.toModule name = .error (.unbalancedStack d) →
      (code.execute = .error (.unbalancedStack d) ∨ ∃ j, code.EndsInDivision j) → Outcome code name
  | balanced : (code.toModule name =
        if isEntryPoint name then .ok (code.moduleText name) else .error (.invalidEntryPoint name)) →
      ((∃ v, code.execute = .ok v) ∨ ∃ j, code.EndsInDivision j) → Outcome code name

theorem toModule_of_heightFrom_ok {code : Code} {height : Nat} (h : heightFrom 0 0 code = .ok height)
    (name : String) : code.toModule name =
      if height = 1 then
        if isEntryPoint name then .ok (code.moduleText name) else .error (.invalidEntryPoint name)
      else .error (.unbalancedStack height) := by
  unfold toModule
  rw [h]

theorem toModule_of_heightFrom_error {code : Code} {e : ValidationError}
    (h : heightFrom 0 0 code = .error e) (name : String) : code.toModule name = .error e := by
  unfold toModule
  rw [h]

theorem outcome (code : Code) (name : String) : code.Outcome name := by
  have h : Machine.Agrees {} code (heightFrom 0 0 code) := code.agrees_heightFrom rfl
  have hzero : ∀ k, ({} : Machine).executed + k = k := Nat.zero_add
  generalize hr : heightFrom 0 0 code = r at h
  cases h with
  | @finishes height ht hl =>
    have hm := toModule_of_heightFrom_ok hr name
    by_cases h1 : height = 1
    · rw [if_pos h1] at hm
      exact .balanced hm (.inl (exists_execute_eq_ok ht (hl.trans h1)))
    · rw [if_neg h1] at hm
      exact .unbalanced hm (.inl (execute_of_length_ne_one ht hl h1))
  | underflows hc ht =>
    rw [hzero] at hr ht
    exact .underflow hc (toModule_of_heightFrom_error hr name) (.inl (execute_of_trap ht))
  | @trapsFirst height index trap hd =>
    have hm := toModule_of_heightFrom_ok hr name
    have he : code.EndsInDivision index := ⟨trap, hd, execute_of_trap hd.trap_run⟩
    by_cases h1 : height = 1
    · rw [if_pos h1] at hm
      exact .balanced hm (.inr ⟨index, he⟩)
    · rw [if_neg h1] at hm
      exact .unbalanced hm (.inr ⟨index, he⟩)
  | @trapsBefore k index instr trap hc hlt hd =>
    rw [hzero] at hr
    exact .underflow hc (toModule_of_heightFrom_error hr name)
      (.inr ⟨index, hlt, trap, hd, execute_of_trap hd.trap_run⟩)

/-! ## Checking and running agree -/

theorem isEntryPoint_iff (name : String) : isEntryPoint name = true ↔
    name ≠ "" ∧ ∀ c ∈ name.toList, c.isAlphanum = true ∨ c = '_' := by
  unfold isEntryPoint
  simp

/-- What is said of the module, given how the block runs: a fault of the block shows in both, and a
block that has a value is refused for its name only. -/
def ModuleMatches (code : Code) (name : String) : Except Trap Int64 → Prop
  | .ok _ =>
    (name ≠ "" ∧ (∀ c ∈ name.toList, c.isAlphanum = true ∨ c = '_') →
      code.toModule name = .ok (code.moduleText name)) ∧
    (¬ (name ≠ "" ∧ ∀ c ∈ name.toList, c.isAlphanum = true ∨ c = '_') →
      code.toModule name = .error (.invalidEntryPoint name))
  | .error (.stackUnderflow i) =>
    ∃ instr, code[i]? = some instr ∧ code.toModule name = .error (.stackUnderflow i instr)
  | .error (.unbalancedStack d) => code.toModule name = .error (.unbalancedStack d)
  | .error .divideByZero | .error .integerOverflow => True

/-- How the block runs, given what is said of the module: the same fault shows, or there is a value,
unless a division fails before. -/
def RunMatches (code : Code) : Except ValidationError String → Prop
  | .ok _ | .error (.invalidEntryPoint _) =>
    (∃ v, code.execute = .ok v) ∨ ∃ j, code.EndsInDivision j
  | .error (.stackUnderflow i instr) => code[i]? = some instr ∧
    (code.execute = .error (.stackUnderflow i) ∨ ∃ j < i, code.EndsInDivision j)
  | .error (.unbalancedStack d) =>
    code.execute = .error (.unbalancedStack d) ∨ ∃ j, code.EndsInDivision j

theorem EndsInDivision.moduleMatches {code : Code} {index : Nat} (h : code.EndsInDivision index)
    (name : String) : code.ModuleMatches name code.execute := by
  obtain ⟨t, hd, he⟩ := h
  rw [he]
  obtain rfl | rfl := hd.arithmetic
  · trivial
  · trivial

theorem moduleMatches_execute (code : Code) (name : String) :
    code.ModuleMatches name code.execute := by
  cases code.outcome name with
  | underflow hc hm he =>
    obtain he | ⟨j, -, hj⟩ := he
    · rw [he]; exact ⟨_, hc, hm⟩
    · exact hj.moduleMatches name
  | unbalanced hm he =>
    obtain he | ⟨j, hj⟩ := he
    · rw [he]; exact hm
    · exact hj.moduleMatches name
  | balanced hm he =>
    obtain ⟨v, he⟩ | ⟨j, hj⟩ := he
    · rw [he]
      unfold ModuleMatches
      rw [← isEntryPoint_iff]
      exact ⟨fun h => by rw [hm, if_pos h], fun h => by rw [hm, if_neg h]⟩
    · exact hj.moduleMatches name

theorem runMatches_toModule (code : Code) (name : String) :
    code.RunMatches (code.toModule name) := by
  cases code.outcome name with
  | underflow hc hm he => rw [hm]; exact ⟨hc, he⟩
  | unbalanced hm he => rw [hm]; exact he
  | balanced hm he => rw [hm]; split <;> exact he

/-- Making a block a module and running it agree, in both directions. -/
theorem toModule_agrees_execute (code : Code) (name : String) :
    code.ModuleMatches name code.execute ∧ code.RunMatches (code.toModule name) :=
  ⟨moduleMatches_execute code name, runMatches_toModule code name⟩

end Code

end StackLisp
