/-
The faults of a program, place by place. A value is needed at every top-level expression and at
every operand of a list where a value is needed, but not at the head of a list. Each such place is
faulty or sound by itself, whatever stands below it, and lowering reports the first faulty place in
pre-order: a list before its operands, operands and top-level expressions from the left.
-/
import StackLisp.Lowering

namespace StackLisp

/-! ## Places -/

/-- A place where a value is needed: the expression there, the list directly around it, and the
number of lists around it. -/
structure Site where
  expr : Expr
  within : Option Expr
  depth : Nat
deriving DecidableEq, Repr

namespace Site

mutual

/-- The places of an expression in pre-order, its own place first. -/
def ofExpr (within : Option Expr) (depth : Nat) : Expr → List Site
  | .list (head :: operands) =>
    let expr := Expr.list (head :: operands)
    ⟨expr, within, depth⟩ :: ofExprs (some expr) (depth + 1) operands
  | e => [⟨e, within, depth⟩]

/-- The places of some expressions that stand side by side. -/
def ofExprs (within : Option Expr) (depth : Nat) : List Expr → List Site
  | [] => []
  | e :: es => ofExpr within depth e ++ ofExprs within depth es

end

/-- The places of a program. -/
def ofProgram (p : Program) : List Site := ofExprs none 0 p

/-- What is wrong at a place, if anything is. Of several faults of a list the nesting comes first,
then its head, then the number of its operands. -/
def fault (c : Compiler) (s : Site) : Option CompileError :=
  match s.expr with
  | .integer v =>
    if -9223372036854775808 ≤ v ∧ v ≤ 9223372036854775807 then none else some (.integerOverflow v)
  | .atom _ | .string _ => some (.unsupported s.expr)
  | .list es =>
    if c.maxDepth < s.depth + 1 then some (.tooDeep c.maxDepth s.expr)
    else
      match es with
      | [] => some (.emptyList s.within)
      | .atom name :: operands =>
        match c.operators.get? name with
        | none => some (.unknownOperator name s.expr)
        | some o =>
          if operands.length < o.minOperands then
            some (.arity name o.minOperands operands.length s.expr)
          else none
      | _ :: _ => some (.notCallable s.expr)

/-- The place of an expression comes before the places in it. -/
theorem exists_ofExpr_eq_cons (within : Option Expr) (depth : Nat) (e : Expr) :
    ∃ below, ofExpr within depth e = ⟨e, within, depth⟩ :: below := by
  match e with
  | .integer _ | .atom _ | .string _ | .list [] => exact ⟨[], by simp only [ofExpr]⟩
  | .list (_ :: _) => exact ⟨_, by rw [ofExpr]⟩

/-- No place has the fault of the empty program. -/
theorem fault_ne_emptyProgram (c : Compiler) (s : Site) : s.fault c ≠ some .emptyProgram := by
  unfold fault
  repeat' split
  all_goals simp

end Site

namespace Compiler

/-! ## One place -/

theorem isWord_iff (v : Int) :
    isWord v = true ↔ -9223372036854775808 ≤ v ∧ v ≤ 9223372036854775807 := by
  unfold isWord
  rw [Bool.and_eq_true, decide_eq_true_iff, decide_eq_true_iff]
  exact Iff.rfl

/-- The expressions that have code as soon as their operands have. -/
inductive Sound (c : Compiler) (depth : Nat) : Expr → Prop
  | integer {v : Int} : isWord v = true → Sound c depth (.integer v)
  | application {name : String} {o : Operator} {x : Expr} {xs : List Expr} :
      depth < c.maxDepth → c.operators.get? name = some o → o.minOperands ≤ xs.length + 1 →
      Sound c depth (.list (.atom name :: x :: xs))

/-- A place is faulty, and then lowering reports its fault at once, or it is sound. -/
theorem lower_cases (c : Compiler) (s : Site) :
    (∃ err, s.fault c = some err ∧ c.lower s.within s.depth s.expr = .fail err) ∨
      s.fault c = none ∧ c.Sound s.depth s.expr := by
  obtain ⟨e, within, depth⟩ := s
  cases e with
  | integer v =>
    by_cases h : isWord v = true
    · exact .inr ⟨by simp only [Site.fault, if_pos ((isWord_iff v).1 h)], .integer h⟩
    · refine .inl ⟨.integerOverflow v, ?_, by simp only [lower, if_neg h]⟩
      simp only [Site.fault, if_neg (mt (isWord_iff v).2 h)]
  | atom name => exact .inl ⟨_, rfl, by simp only [lower]⟩
  | string value => exact .inl ⟨_, rfl, by simp only [lower]⟩
  | list es =>
    by_cases hd : c.maxDepth ≤ depth
    · refine .inl ⟨.tooDeep c.maxDepth (.list es), ?_, ?_⟩
      · simp only [Site.fault, if_pos (Nat.lt_succ_of_le hd)]
      · rw [lower.eq_def]; exact if_pos hd
    · have hd' : ¬ c.maxDepth < depth + 1 := by omega
      simp only [Site.fault, if_neg hd']
      cases es with
      | nil => exact .inl ⟨_, rfl, by simp only [lower, if_neg hd]⟩
      | cons head operands =>
        cases head with
        | integer _ | string _ | list _ => exact .inl ⟨_, rfl, by simp only [lower, if_neg hd]⟩
        | atom name =>
          cases ho : c.operators.get? name with
          | none =>
            simp only [ho]
            exact .inl ⟨_, rfl, by simp only [lower, if_neg hd, ho]⟩
          | some o =>
            simp only [ho]
            cases operands with
            -- no operator takes no operands, so that a list of its name alone is always too short
            | nil => exact .inl ⟨_, if_pos o.one_le, by simp only [lower, if_neg hd, ho]; rfl⟩
            | cons x xs =>
              by_cases hm : xs.length + 1 < o.minOperands
              · exact .inl ⟨_, if_pos hm, by simp only [lower, if_neg hd, ho, if_pos hm]; rfl⟩
              · exact .inr ⟨if_neg hm, .application (by omega) ho (by omega)⟩

theorem lower_integer (c : Compiler) (within : Option Expr) (depth : Nat) {v : Int}
    (h : isWord v = true) : c.lower within depth (.integer v) = pure [.const (Int64.ofInt v)] := by
  simp only [lower, if_pos h]

theorem lower_application (c : Compiler) (within : Option Expr) {depth : Nat} {name : String}
    {o : Operator} {x : Expr} {xs : List Expr} (hd : depth < c.maxDepth)
    (ho : c.operators.get? name = some o) (hm : o.minOperands ≤ xs.length + 1) :
    c.lower within depth (.list (.atom name :: x :: xs)) = (do
      let expr := Expr.list (.atom name :: x :: xs)
      Traced.emit (.lowering expr name)
      let code ← c.lower (some expr) (depth + 1) x
      let rest ← c.lowerRest expr (depth + 1) o.op xs
      return code ++ rest) := by
  simp only [lower, if_neg (Nat.not_le_of_lt hd), ho, if_neg (Nat.not_lt_of_le hm)]

end Compiler

/-! ## The fault that ends a computation -/

namespace Traced

variable {ε α β : Type}

/-- The error that a computation ends in. -/
def fault? (x : Traced ε α) : Option ε :=
  match x.result with
  | .ok _ => none
  | .error e => some e

theorem fault?_eq_some_iff {x : Traced ε α} {e : ε} : x.fault? = some e ↔ x.result = .error e := by
  unfold fault?
  cases x.result <;> simp

theorem fault?_eq_none_iff {x : Traced ε α} : x.fault? = none ↔ ∃ a, x.result = .ok a := by
  unfold fault?
  cases x.result <;> simp

@[simp] theorem fault?_pure (a : α) : (Pure.pure a : Traced ε α).fault? = none := rfl

@[simp] theorem fault?_fail (e : ε) : (fail e : Traced ε α).fault? = some e := rfl

/-- A first part that fails hides the second, whose fault is the same after every value. -/
theorem fault?_bind {x : Traced ε α} {f : α → Traced ε β} {o : Option ε}
    (h : ∀ a, (f a).fault? = o) : (x >>= f).fault? = x.fault?.or o := by
  rw [bind_def]
  unfold fault?
  rw [result_bind]
  cases hx : x.result with
  | error e => rfl
  | ok a => exact h a

/-- Of two parts whose values are put together, the first that fails ends the computation. -/
theorem fault?_join (x : Traced ε α) (y : Traced ε β) {γ : Type} (join : α → β → γ) :
    (do let a ← x; let b ← y; return join a b : Traced ε γ).fault? = x.fault?.or y.fault? := by
  refine fault?_bind fun a => ?_
  rw [fault?_bind fun b => fault?_pure _, Option.or_none]

theorem fault?_emit_bind (event : Event) (f : Unit → Traced ε β) :
    (emit event >>= f).fault? = (f ()).fault? := rfl

end Traced

namespace Compiler

/-! ## The first faulty place -/

mutual

/-- Lowering an expression ends in the fault of its first faulty place. -/
theorem fault?_lower (c : Compiler) (within : Option Expr) (depth : Nat) (e : Expr) :
    (c.lower within depth e).fault? = (Site.ofExpr within depth e).findSome? (Site.fault c) := by
  obtain ⟨err, hf, hl⟩ | ⟨hf, hs⟩ := c.lower_cases ⟨e, within, depth⟩
  -- a fault here comes before all faults below, which are not even looked for
  · obtain ⟨below, hb⟩ := Site.exists_ofExpr_eq_cons within depth e
    rw [hl, hb, List.findSome?_cons, hf, Traced.fault?_fail]
  · cases hs with
    | integer hv =>
      rw [lower_integer c within depth hv, Site.ofExpr, List.findSome?_singleton, hf]
      · rfl
      · intro _ _ h; cases h
    | @application name o x xs hd ho hm =>
      rw [lower_application c within hd ho hm, Site.ofExpr, List.findSome?_cons, hf, Site.ofExprs,
        List.findSome?_append, ← fault?_lower, ← fault?_lowerRest c _ _ o.op, Traced.fault?_emit_bind]
      exact Traced.fault?_join _ _ _
termination_by sizeOf e

theorem fault?_lowerRest (c : Compiler) (within : Expr) (depth : Nat) (op : BinaryOp) :
    ∀ (es : List Expr), (c.lowerRest within depth op es).fault? =
      (Site.ofExprs (some within) depth es).findSome? (Site.fault c)
  | [] => by simp [lowerRest, Site.ofExprs]
  | e :: es => by
    rw [lowerRest, Site.ofExprs, List.findSome?_append, ← fault?_lower,
      ← fault?_lowerRest c within depth op es]
    exact Traced.fault?_join _ _ _
termination_by es => sizeOf es

end

/-- A program that is not empty ends in the fault of its first faulty place. -/
theorem fault?_lowerProgram (c : Compiler) : ∀ (p : Program), p ≠ [] →
    (c.lowerProgram p).fault? = (Site.ofProgram p).findSome? (Site.fault c)
  | [], h => absurd rfl h
  | [e], _ => by
    rw [lowerProgram, fault?_lower, Site.ofProgram, Site.ofExprs, Site.ofExprs, List.append_nil]
  | e :: e' :: es, _ => by
    rw [lowerProgram, Site.ofProgram, Site.ofExprs, List.findSome?_append, ← fault?_lower,
      ← Site.ofProgram, ← fault?_lowerProgram c (e' :: es) (List.cons_ne_nil _ _)]
    · exact Traced.fault?_join _ _ _
    · exact List.cons_ne_nil _ _

theorem fault?_compileTraced (c : Compiler) (p : Program) :
    (c.compileTraced p).fault? = (c.lowerProgram p).fault? := by
  unfold compileTraced
  refine (Traced.fault?_bind fun code => ?_).trans Option.or_none
  rw [Traced.fault?_emit_bind, Traced.fault?_pure]

theorem compile_nil (c : Compiler) : c.compile [] = .error .emptyProgram := rfl

/-- A program that is not empty is refused for a faulty place with no faulty place before it. -/
theorem compile_eq_error_iff (c : Compiler) {p : Program} (hp : p ≠ []) (err : CompileError) :
    c.compile p = .error err ↔ ∃ before s after, Site.ofProgram p = before ++ s :: after ∧
      (∀ b ∈ before, b.fault c = none) ∧ s.fault c = some err := by
  unfold compile
  rw [← Traced.fault?_eq_some_iff, fault?_compileTraced, fault?_lowerProgram c p hp,
    List.findSome?_eq_some_iff]
  constructor
  · rintro ⟨before, s, after, h, hs, hb⟩; exact ⟨before, s, after, h, hb, hs⟩
  · rintro ⟨before, s, after, h, hb, hs⟩; exact ⟨before, s, after, h, hs, hb⟩

theorem compile_isOk_iff (c : Compiler) {p : Program} (hp : p ≠ []) :
    (∃ code, c.compile p = .ok code) ↔ ∀ s ∈ Site.ofProgram p, s.fault c = none := by
  unfold compile
  rw [← Traced.fault?_eq_none_iff, fault?_compileTraced, fault?_lowerProgram c p hp,
    List.findSome?_eq_none_iff]

/-- Lowering is an exact diagnosis. Only the empty program is refused as empty. Any other program is
refused with the fault of its first faulty place in pre-order, and has code if and only if no place
of it is faulty. -/
theorem compile_reports_first_fault (c : Compiler) (p : Program) :
    (c.compile p = .error .emptyProgram ↔ p = []) ∧
    (∀ err, c.compile p = .error err ↔ p = [] ∧ err = .emptyProgram ∨
      ∃ before s after, Site.ofProgram p = before ++ s :: after ∧
        (∀ b ∈ before, b.fault c = none) ∧ s.fault c = some err) ∧
    ((∃ code, c.compile p = .ok code) ↔ p ≠ [] ∧ ∀ s ∈ Site.ofProgram p, s.fault c = none) := by
  -- the empty program has no place that could be faulty, so its error stands apart
  by_cases hp : p = []
  · subst hp
    refine ⟨⟨fun _ => rfl, fun _ => c.compile_nil⟩, fun err => ?_, ?_⟩
    · rw [compile_nil]
      constructor
      · rintro h; cases h; exact .inl ⟨rfl, rfl⟩
      · rintro (⟨-, rfl⟩ | ⟨before, s, after, h, -⟩)
        · rfl
        · exact absurd h.symm (List.append_ne_nil_of_right_ne_nil _ (List.cons_ne_nil _ _))
    · rw [compile_nil]
      constructor
      · rintro ⟨code, h⟩; cases h
      · rintro ⟨h, -⟩; exact absurd rfl h
  · refine ⟨⟨fun h => ?_, fun h => absurd h hp⟩, fun err => ?_, ?_⟩
    · obtain ⟨_, s, _, _, _, hs⟩ := (compile_eq_error_iff c hp _).1 h
      exact absurd hs (Site.fault_ne_emptyProgram c s)
    · rw [compile_eq_error_iff c hp]
      exact ⟨.inr, fun h => h.resolve_left fun h' => hp h'.1⟩
    · rw [compile_isOk_iff c hp]
      exact ⟨fun h => ⟨hp, h⟩, And.right⟩

end Compiler

end StackLisp
