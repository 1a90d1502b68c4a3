/-
The canonical form of a source. Reading gives only expressions that can be written, nested no deeper
than the limit. Their written forms, one a line, are a source of the same program, which a session
that emits expressions prints unchanged.
-/
import StackLisp.Session
import StackLisp.Proofs.Reading.RoundTrip

namespace StackLisp

/-! ## Expressions, one a line -/

namespace Session

theorem stdout_showExprs_cons (e : Expr) (p : Program) :
    (showExprs (e :: p)).stdout = e.render ++ "\n" ++ (showExprs p).stdout := by
  unfold showExprs
  rw [List.map_cons, String.join_cons]

/-- The lines of some expressions give the expressions written out as symbols. -/
theorem symbols_showExprs (p : Program) (hp : ∀ s ∈ Expr.flattenAll p, s.Legible) :
    Text.symbols (showExprs p).stdout.toList = (Expr.flattenAll p).map some := by
  induction p with
  | nil => exact Text.symbols_nil
  | cons e p ih =>
    rw [Expr.flattenAll, List.forall_mem_append] at hp
    -- the line feed breaks off the last token of the line, and is a blank itself
    have hbreak := Lexeme.breaks_blank (c := '\n') rfl (showExprs p).stdout.toList
    have hline : (showExprs (e :: p)).stdout.toList =
        e.render.toList ++ '\n' :: (showExprs p).stdout.toList := by
      rw [stdout_showExprs_cons]
      simp
    rw [hline, Expr.symbols_render e hp.1 hbreak, Text.symbols_blank rfl, ih hp.2, Expr.flattenAll,
      List.map_append]

theorem run_ast_of_parse {limit : Nat} {source : String} {p : Program}
    (h : (reader ⟨.ast, limit⟩).parse source = .ok p) (name : String) :
    run ⟨.ast, limit⟩ name source = some (showExprs p) := by
  simp only [run, withProgram, h]

end Session

namespace Reader

theorem parse_showExprs {r : Reader} {p : Program}
    (h : ∀ e ∈ p, e.Representable ∧ e.depth ≤ r.maxDepth) :
    r.parse (Session.showExprs p).stdout = .ok p := by
  refine parse_eq_ok_iff_symbols.2 ⟨?_, fun e he => (h e he).2⟩
  exact Session.symbols_showExprs p (Expr.forall_mem_flattenAll.2 fun e he => (h e he).1)

/-- A program that has been read is representable: its atoms are texts of the atom rule, its
integers are not negative, and its strings have no line feeds. Its expressions fit into the limit.
Printed line by line it is read back, by either tokenizer, and a session prints it as it stands. -/
theorem parse_image_canonical {r : Reader} {source : String} {p : Program}
    (h : r.parse source = .ok p) :
    (∀ e ∈ p, e.Representable ∧ e.depth ≤ r.maxDepth) ∧
    (∀ t : Tokenizer, (⟨t, r.maxDepth⟩ : Reader).parse (Session.showExprs p).stdout = .ok p) ∧
    ∀ name, Session.run ⟨.ast, r.maxDepth⟩ name source = some (Session.showExprs p) ∧
      Session.run ⟨.ast, r.maxDepth⟩ name (Session.showExprs p).stdout =
        some (Session.showExprs p) := by
  have himage : ∀ e ∈ p, e.Representable ∧ e.depth ≤ r.maxDepth := fun e he =>
    ⟨representable_of_parse h e he, (parse_eq_ok_iff_symbols.1 h).2 e he⟩
  have hback : ∀ t : Tokenizer,
      (⟨t, r.maxDepth⟩ : Reader).parse (Session.showExprs p).stdout = .ok p := fun t =>
    parse_showExprs himage
  refine ⟨himage, hback, fun name => ⟨?_, ?_⟩⟩
  · -- the session has a tokenizer of its own
    refine Session.run_ast_of_parse ?_ name
    rw [parse_eq_program] at h ⊢
    exact h
  · exact Session.run_ast_of_parse (hback Session.tokenizer) name

/-- A list that is spread over lines, with numerals and atoms that stand side by side and an escaped
quote. -/
theorem parse_image_canonical_spread :
    let r : Reader := ⟨{}, 1⟩
    let p : Program := [.list [.atom "+", .integer 0, .integer 7, .atom "x?"], .string "\""]
    let lines := "(+ 0 7 x?)\n\"\\\"\"\n"
    r.parse "(+\n 07x?)\t\"\\\"\"" = .ok p ∧ (Session.showExprs p).stdout = lines ∧
      (⟨Session.tokenizer, 1⟩ : Reader).parse lines = .ok p ∧
      Session.run ⟨.ast, 1⟩ "repl" lines = some (Session.showExprs p) := by
  intro r p lines
  have h : r.parse "(+\n 07x?)\t\"\\\"\"" = .ok p := by decide +kernel
  have hlines : (Session.showExprs p).stdout = lines := rfl
  obtain ⟨-, hback, hrun⟩ := parse_image_canonical h
  refine ⟨h, hlines, ?_, ?_⟩
  · rw [← hlines]
    exact hback Session.tokenizer
  · rw [← hlines]
    exact (hrun "repl").2

end Reader

end StackLisp
