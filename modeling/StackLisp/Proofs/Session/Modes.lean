/-
The modes of a session agree. A source is read, lowered and run in this order, and each mode stops
with what it has to print: expressions, code, a module or a value. So a mode gets as far as the modes
before it, what stops a mode is reported alike by all that come to it, and nothing has been printed
when a fault is found.

The code of a program always makes a module, so that a module is refused only where code is. Its body
is the listing, indented.
-/
import StackLisp.Proofs.Code.Text
import StackLisp.Proofs.Lowering.Heights
import StackLisp.Proofs.Reading.RoundTrip
import StackLisp.Proofs.Session.Drawing

namespace StackLisp

/-! ## Reports -/

/-- A success leaves nothing on the error stream. A failure leaves something there, and nothing
else. -/
structure Report.Settled (r : Report) : Prop where
  of_ok : r.ok = true → r.stderr = ""
  of_failure : r.ok = false → r.stdout = "" ∧ r.stderr ≠ ""

namespace Session

theorem settled_printed (text : String) : (printed text).Settled :=
  ⟨fun _ => rfl, fun h => (by cases h)⟩

theorem settled_showExprs (p : Program) : (showExprs p).Settled :=
  ⟨fun _ => rfl, fun h => (by cases h)⟩

theorem settled_refused (colour : Text.Colour) (heading message rest : String) :
    (refused (headed colour heading message ++ rest)).Settled := by
  refine ⟨fun h => (by cases h), fun _ => ⟨rfl, ?_⟩⟩
  simp [refused, headed]

theorem settled_parseErrorReport (name source : String) (e : ParseError) :
    (parseErrorReport name source e).Settled := settled_refused _ _ _ _

theorem settled_compileErrorReport (c : Compiler) (e : CompileError) :
    (compileErrorReport c e).Settled := settled_refused _ _ _ _

theorem settled_showResult (code : Code) : (showResult code).Settled := by
  unfold showResult
  split
  · exact settled_printed _
  · rename_i trap _
    have h := settled_refused .magenta "trap" trap.message ""
    rwa [String.append_empty] at h

/-! ## How far a source gets -/

section Steps

variable {s : Session} {source : String} {p : Program}

theorem withProgram_error {e : ParseError} (h : s.reader.parse source = .error e) (name : String)
    (next : Program → Report) : s.withProgram name source next = parseErrorReport name source e := by
  rw [withProgram, h]

theorem withProgram_ok (h : s.reader.parse source = .ok p) (name : String)
    (next : Program → Report) : s.withProgram name source next = next p := by
  rw [withProgram, h]

theorem withCode_error {e : CompileError} (h : s.compiler.compile p = .error e)
    (next : Code → Report) : s.withCode p next = compileErrorReport s.compiler e := by
  rw [withCode, h]

theorem withCode_ok {code : Code} (h : s.compiler.compile p = .ok code) (next : Code → Report) :
    s.withCode p next = next code := by
  rw [withCode, h]

end Steps

/-- What the four modes report, by how far the source gets: it is no program, or a program without
code, or a program with code. -/
inductive Course (limit : Nat) (name source : String) :
    (result instructions wat ast : Report) → Prop
  | unread {e : ParseError} {report : Report} :
      (⟨tokenizer, limit⟩ : Reader).parse source = .error e →
      report = parseErrorReport name source e →
      Course limit name source report report report report
  | unlowered {p : Program} {e : CompileError} {report : Report} :
      (⟨tokenizer, limit⟩ : Reader).parse source = .ok p →
      (⟨.builtin, limit⟩ : Compiler).compile p = .error e →
      report = compileErrorReport ⟨.builtin, limit⟩ e →
      Course limit name source report report report (showExprs p)
  | lowered {p : Program} {code : Code} :
      (⟨tokenizer, limit⟩ : Reader).parse source = .ok p →
      (⟨.builtin, limit⟩ : Compiler).compile p = .ok code →
      Course limit name source (showResult code) (showCode code) (showModule code) (showExprs p)

theorem exists_course (limit : Nat) (name source : String) :
    ∃ result instructions wat ast : Report,
      run ⟨.result, limit⟩ name source = some result ∧
      run ⟨.instructions, limit⟩ name source = some instructions ∧
      run ⟨.wat, limit⟩ name source = some wat ∧
      run ⟨.ast, limit⟩ name source = some ast ∧
      Course limit name source result instructions wat ast := by
  -- all four have the same reader and the same compiler
  cases hp : (⟨tokenizer, limit⟩ : Reader).parse source with
  | error e =>
    have hread : ∀ emit next, withProgram ⟨emit, limit⟩ name source next =
        parseErrorReport name source e := fun emit =>
      withProgram_error (s := ⟨emit, limit⟩) hp name
    exact ⟨_, _, _, _, congrArg some (hread _ _), congrArg some (hread _ _),
      congrArg some (hread _ _), congrArg some (hread _ _), .unread hp rfl⟩
  | ok p =>
    have hread : ∀ emit next, withProgram ⟨emit, limit⟩ name source next = next p := fun emit =>
      withProgram_ok (s := ⟨emit, limit⟩) hp name
    cases hc : (⟨.builtin, limit⟩ : Compiler).compile p with
    | error e =>
      have hlower : ∀ emit next, withCode ⟨emit, limit⟩ p next =
          compileErrorReport ⟨.builtin, limit⟩ e := fun emit =>
        withCode_error (s := ⟨emit, limit⟩) hc
      have hrun : ∀ emit next, withProgram ⟨emit, limit⟩ name source
          (fun p => withCode ⟨emit, limit⟩ p next) = compileErrorReport ⟨.builtin, limit⟩ e := by
        intro emit next
        rw [hread, hlower]
      exact ⟨_, _, _, _, congrArg some (hrun _ _), congrArg some (hrun _ _),
        congrArg some (hrun _ _), congrArg some (hread _ _), .unlowered hp hc rfl⟩
    | ok code =>
      have hlower : ∀ emit next, withCode ⟨emit, limit⟩ p next = next code := fun emit =>
        withCode_ok (s := ⟨emit, limit⟩) hc
      have hrun : ∀ emit next, withProgram ⟨emit, limit⟩ name source
          (fun p => withCode ⟨emit, limit⟩ p next) = next code := by
        intro emit next
        rw [hread, hlower]
      exact ⟨_, _, _, _, congrArg some (hrun _ _), congrArg some (hrun _ _),
        congrArg some (hrun _ _), congrArg some (hread _ _), .lowered hp hc⟩

/-! ## Code and modules -/

/-- The code of a program leaves one value, and so it always makes a module. -/
theorem toModule_of_compile {c : Compiler} {p : Program} {code : Code}
    (h : c.compile p = .ok code) : code ≠ [] ∧
      code.toModule Code.defaultEntryPoint = .ok (code.moduleText Code.defaultEntryPoint) := by
  have hheight : Code.heightFrom 0 0 code = .ok 1 :=
    ((c.compile_eq_ok_iff p code).1 h).within.heightFrom_eq 0
  exact ⟨Code.ne_nil_of_heightFrom hheight, Code.toModule_eq_ok_iff.2 ⟨hheight, rfl, rfl⟩⟩

theorem showModule_of_compile {c : Compiler} {p : Program} {code : Code}
    (h : c.compile p = .ok code) :
    showModule code = printed (code.moduleText Code.defaultEntryPoint) := by
  rw [showModule, (toModule_of_compile h).2]

/-- A printed module is the printed listing, indented, between two headers and the parentheses that
close it. -/
theorem stdout_printed_moduleText {code : Code} (hne : code ≠ []) (name : String) :
    (printed (code.moduleText name)).stdout = Text.unlines ("(module" :: Code.header name ::
      (Text.lines (showCode code).stdout).map ("    " ++ ·)) ++ "))\n" := by
  have hlines : Text.lines (showCode code).stdout = code.map Instr.text :=
    Code.lines_listing_newline hne
  have hclose : "))\n" = "))" ++ "\n" := by decide
  rw [hlines, List.map_map, hclose, ← String.append_assoc]
  exact congrArg (· ++ "\n") (Code.moduleText_eq code name)

/-! ## Sources without stray text -/

theorem not_mem_items_of_parse {limit : Nat} {source : String} {p : Program}
    (h : (⟨tokenizer, limit⟩ : Reader).parse source = .ok p) (e : LexError) :
    .error e ∉ tokenizer.items source := by
  obtain ⟨hs, -⟩ := Reader.parse_eq_ok_iff_symbols.1 h
  rw [← Tokenizer.symbols_items tokenizer] at hs
  exact Item.not_mem_of_symbols hs e

/-- A source that is a program has its tokens shown without a fault, if there are any. -/
theorem run_tokens_of_parse {limit : Nat} {source : String} {p : Program}
    (h : (⟨tokenizer, limit⟩ : Reader).parse source = .ok p) (hne : tokenizer.items source ≠ [])
    (name : String) : ∃ tokens, run ⟨.tokens, limit⟩ name source = some tokens ∧
      tokens.ok = true := by
  obtain ⟨tokens, hrun, hok⟩ := exists_showTokens hne name
  refine ⟨tokens, hrun, hok.trans (List.all_eq_true.2 fun i hi => ?_)⟩
  cases i with
  | token t => rfl
  | error e => exact absurd hi (not_mem_items_of_parse h e)

/-! ## Agreement -/

/-- How the reports of four modes on one source go together. -/
structure ModesAgree (limit : Nat) (name source : String)
    (result instructions wat ast : Report) : Prop where
  instructions_of_result : result.ok = true → instructions.ok = true
  wat_iff_instructions : wat.ok = true ↔ instructions.ok = true
  /-- No code of a program is refused as a module. -/
  valid : ∀ p code, (⟨tokenizer, limit⟩ : Reader).parse source = .ok p →
    (⟨.builtin, limit⟩ : Compiler).compile p = .ok code →
    ∃ text, code.toModule Code.defaultEntryPoint = .ok text
  /-- The body of the module is the listing. -/
  body : wat.ok = true → wat.stdout =
    Text.unlines ("(module" :: Code.header Code.defaultEntryPoint ::
      (Text.lines instructions.stdout).map ("    " ++ ·)) ++ "))\n"
  ast_of_instructions : instructions.ok = true → ast.ok = true
  no_stray : ast.ok = true → ∀ e, .error e ∉ tokenizer.items source
  tokens_of_ast : ast.ok = true → tokenizer.items source ≠ [] →
    ∃ tokens, run ⟨.tokens, limit⟩ name source = some tokens ∧ tokens.ok = true
  /-- A source that is no program is reported alike by all four. -/
  unread : ∀ e, (⟨tokenizer, limit⟩ : Reader).parse source = .error e →
    result.stderr = ast.stderr ∧ instructions.stderr = ast.stderr ∧ wat.stderr = ast.stderr
  /-- A program without code is reported alike by the three that ask for code. -/
  unlowered : ∀ p e, (⟨tokenizer, limit⟩ : Reader).parse source = .ok p →
    (⟨.builtin, limit⟩ : Compiler).compile p = .error e →
    result.stderr = instructions.stderr ∧ wat.stderr = instructions.stderr
  settled : ∀ r ∈ [result, instructions, wat, ast], r.Settled

theorem Course.settled {limit : Nat} {name source : String}
    {result instructions wat ast : Report}
    (h : Course limit name source result instructions wat ast) :
    result.Settled ∧ instructions.Settled ∧ wat.Settled ∧ ast.Settled := by
  cases h with
  | unread _ hr =>
    have hs := hr ▸ settled_parseErrorReport name source _
    exact ⟨hs, hs, hs, hs⟩
  | unlowered _ _ hr =>
    have hs := hr ▸ settled_compileErrorReport _ _
    exact ⟨hs, hs, hs, settled_showExprs _⟩
  | lowered _ hc =>
    rw [showModule_of_compile hc]
    exact ⟨settled_showResult _, settled_printed _, settled_printed _, settled_showExprs _⟩

theorem Course.modesAgree {limit : Nat} {name source : String}
    {result instructions wat ast : Report}
    (h : Course limit name source result instructions wat ast) :
    ModesAgree limit name source result instructions wat ast := by
  have hvalid : ∀ p code, (⟨tokenizer, limit⟩ : Reader).parse source = .ok p →
      (⟨.builtin, limit⟩ : Compiler).compile p = .ok code →
      ∃ text, code.toModule Code.defaultEntryPoint = .ok text :=
    fun _ _ _ hc => ⟨_, (toModule_of_compile hc).2⟩
  have hsettled : ∀ r ∈ [result, instructions, wat, ast], r.Settled := by
    obtain ⟨h1, h2, h3, h4⟩ := h.settled
    simp [h1, h2, h3, h4]
  cases h with
  | unread hp hr =>
    have hfail : result.ok ≠ true := by
      rw [hr]
      exact Bool.false_ne_true
    exact
      { instructions_of_result := id
        wat_iff_instructions := Iff.rfl
        valid := hvalid
        body := fun h => absurd h hfail
        ast_of_instructions := id
        no_stray := fun h => absurd h hfail
        tokens_of_ast := fun h => absurd h hfail
        unread := fun _ _ => ⟨rfl, rfl, rfl⟩
        unlowered := fun _ _ _ _ => ⟨rfl, rfl⟩
        settled := hsettled }
  | unlowered hp hc hr =>
    have hfail : result.ok ≠ true := by
      rw [hr]
      exact Bool.false_ne_true
    exact
      { instructions_of_result := id
        wat_iff_instructions := Iff.rfl
        valid := hvalid
        body := fun h => absurd h hfail
        ast_of_instructions := fun _ => rfl
        no_stray := fun _ => not_mem_items_of_parse hp
        tokens_of_ast := fun _ hne => run_tokens_of_parse hp hne name
        unread := fun e he => absurd (hp.symm.trans he) (by simp)
        unlowered := fun _ _ _ _ => ⟨rfl, rfl⟩
        settled := hsettled }
  | lowered hp hc =>
    have hmodule := showModule_of_compile hc
    exact
      { instructions_of_result := fun _ => rfl
        wat_iff_instructions := by
          rw [hmodule]
          exact Iff.rfl
        valid := hvalid
        body := fun _ => by
          rw [hmodule]
          exact stdout_printed_moduleText (toModule_of_compile hc).1 _
        ast_of_instructions := fun _ => rfl
        no_stray := fun _ => not_mem_items_of_parse hp
        tokens_of_ast := fun _ hne => run_tokens_of_parse hp hne name
        unread := fun e he => absurd (hp.symm.trans he) (by simp)
        unlowered := fun p e hp' he => by
          obtain rfl : _ = p := Except.ok.inj (hp.symm.trans hp')
          exact absurd (hc.symm.trans he) (by simp)
        settled := hsettled }

/-- On every source the four modes give reports, and these agree. -/
theorem modes_agree (limit : Nat) (name source : String) :
    ∃ result instructions wat ast : Report,
      run ⟨.result, limit⟩ name source = some result ∧
      run ⟨.instructions, limit⟩ name source = some instructions ∧
      run ⟨.wat, limit⟩ name source = some wat ∧
      run ⟨.ast, limit⟩ name source = some ast ∧
      ModesAgree limit name source result instructions wat ast := by
  obtain ⟨result, instructions, wat, ast, h1, h2, h3, h4, hcourse⟩ :=
    exists_course limit name source
  exact ⟨result, instructions, wat, ast, h1, h2, h3, h4, hcourse.modesAgree⟩

end Session

end StackLisp
