/-
One count of nesting. The depth of an expression counts the lists around its innermost part, heads
included; lowering counts the lists around the place that it has come to, and comes to operands
only; reading counts the parentheses that are open. Under the same limit the three agree: what fits
by its depth is never refused as nested too deep, what has code fits, and what has been read fits.
-/
import StackLisp.Session
import StackLisp.Proofs.Lowering.Heights
import StackLisp.Proofs.Reading.RoundTrip

namespace StackLisp

/-! ## The depth of a place -/

namespace Site

mutual

/-- No place in an expression reaches deeper than the expression does. -/
theorem depth_le_of_mem_ofExpr (within : Option Expr) (depth : Nat) (e : Expr) (s : Site)
    (h : s ∈ ofExpr within depth e) : s.depth + s.expr.depth ≤ depth + e.depth := by
  match e with
  | .list (head :: operands) =>
    rw [ofExpr] at h
    rcases List.mem_cons.1 h with rfl | h
    · exact Nat.le_refl _
    · have hle := depth_le_of_mem_ofExprs _ (depth + 1) operands s h
      simp only [Expr.depth, Expr.depthAll]
      omega
  | .integer _ | .atom _ | .string _ | .list [] =>
    simp only [ofExpr, List.mem_singleton] at h
    rw [h]
termination_by sizeOf e

theorem depth_le_of_mem_ofExprs (within : Option Expr) (depth : Nat) (es : List Expr) (s : Site)
    (h : s ∈ ofExprs within depth es) : s.depth + s.expr.depth ≤ depth + Expr.depthAll es := by
  match es with
  | [] => rw [ofExprs] at h; cases h
  | e :: es =>
    rw [Expr.depthAll]
    rcases List.mem_append.1 h with h | h
    · have hle := depth_le_of_mem_ofExpr within depth e s h
      omega
    · have hle := depth_le_of_mem_ofExprs within depth es s h
      omega
termination_by sizeOf es

end

/-- A place is past the limit only if the list there reaches past it. -/
theorem lt_of_fault_eq_tooDeep {c : Compiler} {s : Site} {limit : Nat} {e : Expr}
    (h : s.fault c = some (.tooDeep limit e)) : c.maxDepth < s.depth + s.expr.depth := by
  obtain ⟨expr, within, depth⟩ := s
  cases expr with
  | integer v =>
    simp only [fault] at h
    split at h <;> cases h
  | atom name => cases h
  | string value => cases h
  | list es =>
    by_cases hd : c.maxDepth < depth + 1
    · simp only [Expr.depth]
      omega
    · simp only [fault, if_neg hd] at h
      repeat' split at h
      all_goals cases h

end Site

/-! ## Lowering within the limit -/

namespace Compiler

theorem compile_ne_tooDeep {c : Compiler} {p : Program} (h : ∀ e ∈ p, e.depth ≤ c.maxDepth)
    (limit : Nat) (e : Expr) : c.compile p ≠ .error (.tooDeep limit e) := by
  intro herr
  by_cases hp : p = []
  · rw [hp, compile_nil] at herr
    cases herr
  · obtain ⟨before, s, after, hsites, -, hs⟩ := (compile_eq_error_iff c hp _).1 herr
    have hmem : s ∈ Site.ofExprs none 0 p := by
      rw [← Site.ofProgram, hsites]
      simp
    have hle := Site.depth_le_of_mem_ofExprs none 0 p s hmem
    have hlt := Site.lt_of_fault_eq_tooDeep hs
    have hfit := Expr.depthAll_le_iff.2 h
    omega

/-- Lowering and the depth of expressions agree on the limit: a program whose expressions fit is not
refused as nested too deep, and the expressions of a program with code fit. So a program that has
been read within the limit is not refused for its nesting when it is lowered with the same limit, as
it is in a session. -/
theorem limit_agrees_with_depth (c : Compiler) (p : Program) :
    ((∀ e ∈ p, e.depth ≤ c.maxDepth) → ∀ limit e, c.compile p ≠ .error (.tooDeep limit e)) ∧
    ((∃ code, c.compile p = .ok code) → ∀ e ∈ p, e.depth ≤ c.maxDepth) ∧
    (∀ (r : Reader) (source : String), r.maxDepth = c.maxDepth → r.parse source = .ok p →
      ∀ limit e, c.compile p ≠ .error (.tooDeep limit e)) ∧
    ∀ (s : Session) (source : String), s.reader.parse source = .ok p →
      ∀ limit e, s.compiler.compile p ≠ .error (.tooDeep limit e) := by
  refine ⟨compile_ne_tooDeep, ?_, fun r source hlimit h => ?_, fun s source h => ?_⟩
  · rintro ⟨code, h⟩
    exact Expr.depthAll_le_iff.1 ((c.compile_eq_ok_iff p code).1 h).depthAll_le
  · have hfit := (Reader.parse_eq_ok_iff_symbols.1 h).2
    rw [hlimit] at hfit
    exact compile_ne_tooDeep hfit
  · exact compile_ne_tooDeep (Reader.parse_eq_ok_iff_symbols.1 h).2

/-- At the limit of two lists: a program that is read and then refused for its head alone, and one
that has code. -/
theorem limit_agrees_with_depth_at_two :
    let c : Compiler := ⟨.builtin, 2⟩
    let p : Program := [.list [.list [.atom "+"], .integer 1]]
    let q : Program := [.list [.atom "+", .integer 1, .list [.atom "*", .integer 2, .integer 3]]]
    (⟨{}, 2⟩ : Reader).parse "((+) 1)" = .ok p ∧
      (∀ limit e, c.compile p ≠ .error (.tooDeep limit e)) ∧
      (∃ code, c.compile q = .ok code) ∧ ∀ e ∈ q, e.depth ≤ 2 := by
  intro c p q
  have hread : (⟨{}, 2⟩ : Reader).parse "((+) 1)" = .ok p := by decide +kernel
  have hcode : ∃ code, c.compile q = .ok code := ⟨_, rfl⟩
  obtain ⟨-, -, hrefused, -⟩ := limit_agrees_with_depth c p
  obtain ⟨-, hfit, -, -⟩ := limit_agrees_with_depth c q
  exact ⟨hread, hrefused _ _ rfl hread, hcode, hfit hcode⟩

-- a list at the head of a list counts for the depth, but lowering does not come to it
example : Expr.depth (.list [.list [.atom "+"], .integer 1]) = 2 ∧
    Compiler.compile ⟨.builtin, 1⟩ [.list [.list [.atom "+"], .integer 1]] =
      .error (.notCallable (.list [.list [.atom "+"], .integer 1])) := by
  exact ⟨rfl, rfl⟩

end Compiler

end StackLisp
