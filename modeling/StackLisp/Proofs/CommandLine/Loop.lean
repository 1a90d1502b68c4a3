/-
The loop over the lines of the input. A text is blank if and only if it has no items, and only the
tokens of a blank source cannot be drawn. Blank lines are passed over, and so no line that is run
breaks the loop off.

Only the editing of a line can do that, since what a backspace takes back of a long cluster may end
inside a character.
-/
import Mathlib.Data.List.TakeWhile
import StackLisp.CommandLine.Run
import StackLisp.Proofs.CommandLine.Editing
import StackLisp.Proofs.Reading.Items
import StackLisp.Proofs.Session.Drawing

namespace StackLisp

/-! ## Blank texts -/

namespace Text

theorem trim_eq_empty_iff (s : String) : trim s = "" ↔ ∀ c ∈ s.toList, isBlank c = true := by
  rw [trim, trimEnd, trimStart, String.ofList_eq_empty_iff, List.reverse_eq_nil_iff,
    List.dropWhile_eq_nil_iff, String.toList_ofList]
  constructor
  · intro h c hc
    rw [← List.takeWhile_append_dropWhile (p := isBlank) (l := s.toList)] at hc
    rcases List.mem_append.1 hc with hc | hc
    · exact List.mem_takeWhile_imp hc
    · exact h c (List.mem_reverse.2 hc)
  · intro h c hc
    exact h c (List.dropWhile_subset _ (List.mem_reverse.1 hc))

/-- Every character that is not blank belongs to an item. -/
theorem itemsFrom_eq_nil_iff (start : Nat) (cs : List Char) :
    itemsFrom start cs = [] ↔ ∀ c ∈ cs, isBlank c = true := by
  induction cs generalizing start with
  | nil => simp [itemsFrom_nil]
  | cons c r ih =>
    rw [List.forall_mem_cons]
    cases hc : isBlank c with
    | true =>
      rw [itemsFrom_blank start hc, ih]
      simp
    | false =>
      rw [itemsFrom_lexeme start hc]
      simp

end Text

/-! ## Sources that cannot be drawn -/

theorem Snippet.labelledLines_nil (lines : List (List Char)) (number start : Nat) :
    labelledLines [] number start lines = [] := by
  induction lines generalizing number start with
  | nil => rfl
  | cons line lines ih => rw [labelledLines]; exact ih _ _

theorem Snippet.draw_nil (name source : String) : draw name source [] = none := by
  unfold draw
  rw [labelledLines_nil]
  rfl

namespace Session

theorem items_eq_nil_iff (source : String) :
    tokenizer.items source = [] ↔ ∀ c ∈ source.toList, Text.isBlank c = true := by
  rw [← Text.itemsFrom_eq_nil_iff 0, ← Tokenizer.items_skipping]
  rfl

theorem showTokens_eq_none_iff (name source : String) :
    showTokens name source = none ↔ tokenizer.items source = [] := by
  constructor
  · intro h
    by_contra hne
    obtain ⟨report, hsome, -⟩ := exists_showTokens hne name
    rw [h] at hsome
    cases hsome
  · intro h
    rw [showTokens, labels, h, List.map_nil, Snippet.draw_nil]
    rfl

/-- A session has nothing to print for a blank source in the mode of tokens, and only there. -/
theorem run_eq_none_iff (s : Session) (name source : String) :
    s.run name source = none ↔
      s.emit = .tokens ∧ ∀ c ∈ source.toList, Text.isBlank c = true := by
  rw [← items_eq_nil_iff, ← showTokens_eq_none_iff name]
  unfold run
  cases s.emit <;> simp

end Session

namespace CommandLine

/-! ## The loop -/

/-- A line that has an edited form is passed over or run, and does not break the loop off. -/
theorem runLine_eq_none_iff (s : Session) (line : String) :
    runLine s line = none ↔ edited? line = none := by
  unfold runLine
  cases edited? line with
  | none => simp
  | some source =>
    by_cases hblank : Text.trim source = ""
    · simp [hblank]
    · have hrun : s.run "repl" source ≠ none := by
        rw [ne_eq, Session.run_eq_none_iff, ← Text.trim_eq_empty_iff]
        exact fun h => hblank h.2
      obtain ⟨report, hr⟩ := Option.ne_none_iff_exists'.1 hrun
      simp [hblank, hr]

theorem runLines_eq_none_iff (s : Session) (lines : List String) :
    runLines s lines = none ↔ ∃ line ∈ lines, edited? line = none := by
  induction lines with
  | nil => simp [runLines]
  | cons line lines ih =>
    rw [List.exists_mem_cons_iff, ← ih, ← runLine_eq_none_iff s, runLines]
    cases runLine s line <;> cases runLines s lines <;> simp

theorem run_eq_aborted_iff {start : Start} {options : Options} {warning : String}
    (hargs : Options.parse start.args = .ok options) (hfile : options.file = none)
    (hlog : filterWarning? (LogFilter.choose options.logLevel start.logVariable) = some warning)
    (read : String → Except FileError String) :
    run start read = .aborted ↔ ∃ line ∈ Text.lines start.stdin, edited? line = none := by
  rw [← runLines_eq_none_iff options.session, run, hargs]
  simp only [hlog, runWith, hfile]
  cases runLines options.session (Text.lines start.stdin) <;> simp

/-- A text is blank if and only if it has no items, and there is nothing to print for a source if and
only if it is blank and its tokens are asked for. So the loop passes over exactly the lines for which
a session could have nothing to print, and it breaks off at a line without an edited form, and
nowhere else. Such a line has a backspace and a cluster of 256 bytes or more. -/
theorem loop_breaks_off_at_unedited_lines :
    (∀ source, Text.trim source = "" ↔ Session.tokenizer.items source = []) ∧
    (∀ (s : Session) (name source : String), s.run name source = none ↔
      s.emit = .tokens ∧ ∀ c ∈ source.toList, Text.isBlank c = true) ∧
    (∀ source, Text.trim source = "" ↔ ∃ s : Session, s.run "repl" source = none) ∧
    (∀ (start : Start) (options : Options) (warning : String)
      (read : String → Except FileError String),
      Options.parse start.args = .ok options → options.file = none →
      filterWarning? (LogFilter.choose options.logLevel start.logVariable) = some warning →
      (run start read = .aborted ↔ ∃ line ∈ Text.lines start.stdin, edited? line = none)) ∧
    ∀ line, edited? line = none → backspace ∈ line.toList ∧
      ∃ cluster ∈ Text.Cluster.split line.toList, 256 ≤ Text.byteSize cluster := by
  refine ⟨fun source => ?_, Session.run_eq_none_iff, fun source => ?_,
    fun start options warning read hargs hfile hlog => run_eq_aborted_iff hargs hfile hlog read,
    fun line => of_edited?_eq_none⟩
  · rw [Text.trim_eq_empty_iff, Session.items_eq_nil_iff]
  · rw [Text.trim_eq_empty_iff]
    constructor
    · intro hblank
      exact ⟨{ emit := .tokens }, (Session.run_eq_none_iff _ _ _).2 ⟨rfl, hblank⟩⟩
    · rintro ⟨s, hs⟩
      exact ((Session.run_eq_none_iff s _ _).1 hs).2

/-- Neither a blank line nor one that a backspace leaves blank ends a run that shows tokens. -/
theorem loop_breaks_off_at_unedited_lines_blank :
    run ⟨⟨"stacklisp", "stack Lisp", "0.1.0"⟩, ["--emit", "tokens"], " \n\n(\x08\n", none⟩
      (fun _ => .error .notFound) ≠ .aborted := by
  have hargs : Options.parse ["--emit", "tokens"] = .ok { emit := .tokens } := by decide +kernel
  have hlog : filterWarning? (LogFilter.choose none none) = some "" := by decide +kernel
  have hlines : ¬ ∃ line ∈ Text.lines " \n\n(\x08\n", edited? line = none := by decide +kernel
  obtain ⟨-, -, -, hrun, -⟩ := loop_breaks_off_at_unedited_lines
  exact fun h => hlines ((hrun _ _ _ _ hargs rfl hlog).1 h)

/-- A letter with 130 accents is one cluster of 261 bytes, and its size is noted as 5. So a backspace
takes two accents and half of another back. -/
theorem long_cluster_breaks_loop_off :
    run ⟨⟨"stacklisp", "stack Lisp", "0.1.0"⟩, [],
      String.ofList ('e' :: List.replicate 130 '\u0301' ++ [backspace, '1', '\n']), none⟩
      (fun _ => .error .notFound) = .aborted := by
  have hargs : Options.parse [] = .ok {} := rfl
  have hlog : filterWarning? (LogFilter.choose none none) = some "" := by decide +kernel
  have hlines : Text.cutLines ('e' :: List.replicate 130 '\u0301' ++ [backspace, '1', '\n']) =
      ['e' :: List.replicate 130 '\u0301' ++ [backspace, '1']] := by decide +kernel
  have hclusters : (Text.Cluster.split
      ('e' :: List.replicate 130 '\u0301' ++ [backspace, '1'])).foldlM Typed.type? {} = none := by
    decide +kernel
  refine (run_eq_aborted_iff hargs rfl hlog _).2
    ⟨String.ofList ('e' :: List.replicate 130 '\u0301' ++ [backspace, '1']), ?_, ?_⟩
  · rw [Text.lines, String.toList_ofList, hlines]
    exact List.mem_singleton_self _
  · rw [edited?, String.toList_ofList, hclusters]
    rfl

end CommandLine

end StackLisp
