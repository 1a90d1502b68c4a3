/-
Fixtures of expressions that are written again with what their sources give. Errors of reading and
written forms each stand on one line and are no comments, and an error is no separator. Just one
written form is: that of the atom of three dashes. Where a source has it outside of any list, the
second section of the new file ends there, and what was the rest of it is read as source.

Main statement: a fixture that is written again with what its source gives passes the check if and
only if the source has no such atom.
-/
import StackLisp.Fixture.Check
import StackLisp.Proofs.Fixture.Weaving
import StackLisp.Proofs.Reading.Rendering

namespace StackLisp.Fixture

open Text (IsLine)

/-! ## Verdicts -/

theorem mismatch_eq_none_iff (path heading : String) (expected got : List String) :
    mismatch path heading expected got = none ↔ expected.map Text.trim = got.map Text.trim := by
  simp [mismatch]

theorem compare_eq_passed_iff (f : Fixture) (path : String) (o : Outcome) :
    f.compare path o = ⟨none, ""⟩ ↔
      f.errors.map Text.trim = o.errors.map Text.trim ∧
        f.outputs.map Text.trim = o.outputs.map Text.trim := by
  rw [← mismatch_eq_none_iff path "errors", ← mismatch_eq_none_iff path "output", compare]
  split
  · rename_i he ho
    simp [he, ho]
  · rename_i hne
    constructor
    · intro h
      cases h
    · exact fun h => absurd h.2 (hne h.1)

/-! ## Written forms as lines of a section -/

theorem isComment_of_isTrimmed {l : String} (h : Text.IsTrimmed l) : isComment l = false := by
  rw [isComment, h.trimStart_eq, beq_eq_false_iff_ne]
  exact fun hc => (h.head ';' hc).2 rfl

theorem representable_dashes : (Expr.atom separator).Representable := by
  intro s hs
  obtain rfl := List.mem_singleton.1 hs
  have hdash : Lexeme.isAtomChar '-' = true := by decide
  exact Text.mem_oneOf_mul.2
    ⟨'-', ['-', '-'], rfl, by decide, Text.mem_kstar_oneOf.2 (by simp [hdash])⟩

/-- Just one expression is written as a separator. -/
theorem isSeparator_render_iff {e : Expr} (he : e.Representable) :
    isSeparator e.render = true ↔ e = .atom separator := by
  rw [isSeparator, (Expr.isTrimmed_render he).trimEnd_eq, beq_iff_eq]
  exact ⟨Expr.render_inj he representable_dashes, fun h => h ▸ rfl⟩

theorem map_trim_render {p : List Expr} (hp : ∀ e ∈ p, e.Representable) :
    (p.map Expr.render).map Text.trim = p.map Expr.render := by
  rw [List.map_map]
  exact List.map_congr_left fun e he => (Expr.isTrimmed_render (hp e he)).trim_eq

/-- A section of written forms is cut where the first of them is a separator. -/
theorem exists_cut_at_dashes {ls : List String} {p : Program} (hp : ∀ e ∈ p, e.Representable)
    (hmem : .atom separator ∈ p) (hline : ∀ l ∈ ls, IsLine l)
    (hplain : plain ls = p.map Expr.render) :
    ∃ above below p₁ e p₂, ls = above ++ separator :: below ∧ p = p₁ ++ e :: p₂ ∧
      IsSection above ∧ plain above = p₁.map Expr.render := by
  have hsep : separator ∈ plain ls := by
    rw [hplain]
    exact List.mem_map.2 ⟨_, hmem, rfl⟩
  obtain ⟨above, below, rfl, hnot⟩ := List.eq_append_cons_of_mem (List.mem_filter.1 hsep).1
  rw [plain_append] at hplain
  obtain ⟨p₁, q, rfl, hp₁, hq⟩ := List.map_eq_append_iff.1 hplain.symm
  rw [plain, List.filter_cons_of_pos (by simp [isComment_separator])] at hq
  obtain ⟨e, p₂, rfl, -, -⟩ := List.map_eq_cons_iff.1 hq
  refine ⟨above, below, p₁, e, p₂, rfl, rfl, ?_, hp₁.symm⟩
  refine isSection_of_plain (List.forall_mem_append.1 hline).1 fun l hl => ?_
  rw [Bool.eq_false_iff]
  intro hs
  have habove := (List.mem_filter.1 hl).1
  rw [← hp₁] at hl
  obtain ⟨e', he', rfl⟩ := List.mem_map.1 hl
  rw [isSeparator_render_iff (hp e' (List.mem_append_left _ he'))] at hs
  subst hs
  exact hnot habove

/-! ## Errors as lines of a section -/

/-- A line that starts with a letter. -/
def IsWorded (l : String) : Prop := IsLine l ∧ l.toList.head?.any Char.isAlpha = true

instance (l : String) : Decidable (IsWorded l) := inferInstanceAs (Decidable (_ ∧ _))

theorem IsWorded.exists_cons {l : String} (h : IsWorded l) :
    ∃ c r, l.toList = c :: r ∧ c.isAlpha = true := by
  obtain ⟨-, h⟩ := h
  cases hl : l.toList with
  | nil => rw [hl] at h; cases h
  | cons c r => rw [hl] at h; exact ⟨c, r, rfl, h⟩

theorem IsWorded.append {l rest : String} (h : IsWorded l) (hrest : IsLine rest) :
    IsWorded (l ++ rest) := by
  obtain ⟨c, r, hl, hc⟩ := h.exists_cons
  refine ⟨h.1.append hrest, ?_⟩
  rw [String.toList_append, hl]
  exact hc

theorem IsWorded.isPlain {l : String} (h : IsWorded l) : IsPlain l := by
  obtain ⟨c, r, hl, hc⟩ := h.exists_cons
  have hstart : Lexeme.isAtomStart c = true := by simp [Lexeme.isAtomStart, hc]
  have hblank := Lexeme.isBlank_of_isAtomChar (Lexeme.isAtomChar_of_isAtomStart hstart)
  refine ⟨h.1, ?_, ?_⟩
  · have hsemi : c ≠ ';' := by rintro rfl; exact absurd hc (by decide)
    rw [isComment, Text.trimStart, hl, List.dropWhile_cons_of_neg (by simp [hblank])]
    simp [hsemi]
  · rw [Bool.eq_false_iff]
    intro hs
    obtain ⟨blanks, hdashes⟩ := exists_of_isSeparator hs
    rw [hl] at hdashes
    cases hdashes
    exact absurd hc (by decide)

theorem isLine_span (s : Span) : IsLine s.text := by
  have hdots : IsLine ".." := by decide
  exact ((Text.isLine_repr _).append hdots).append (Text.isLine_repr _)

theorem isWorded_message (err : ParseError) : IsWorded err.message := by
  have hat : IsLine " at " := by decide
  cases err with
  | lex e =>
    have hfault : IsWorded e.fault.message := by cases e.fault <;> decide
    exact (hfault.append hat).append (isLine_span e.span)
  | unexpected kind span =>
    have hword : IsWorded "unexpected " := by decide
    have hkind : IsLine kind.name := by cases kind <;> decide
    exact ((hword.append hkind).append hat).append (isLine_span span)
  | unterminated opening =>
    have hword : IsWorded "unterminated list opened at " := by decide
    exact hword.append (isLine_span opening)
  | tooDeep limit span =>
    have hword : IsWorded "lists nested deeper than " := by decide
    have hlevels : IsLine " levels at " := by decide
    exact ((hword.append (Text.isLine_repr limit)).append hlevels).append (isLine_span span)

/-! ## Sources -/

theorem symbols_joinSource (ls : List String) :
    Text.symbols (joinSource ls).toList = ls.flatMap fun l => Text.symbols l.toList := by
  rw [joinSource, Text.symbols_unlines]
  induction ls with
  | nil => rfl
  | cons l ls ih =>
    rw [List.dropWhile_cons]
    split
    · rename_i hl
      rw [ih, List.flatMap_cons, beq_iff_eq.1 hl]
      exact (congrArg (· ++ _) Text.symbols_nil).symm
    · rfl

section Contents

variable {contents : String} (hcr : '\r' ∉ contents.toList)
include hcr

theorem parse_joinSource_lines (r : Reader) :
    r.parse (joinSource (Text.lines (read contents).source)) = r.parse (read contents).source := by
  rcases joinSource_lines_source hcr with hsource | hsource
  · rw [← hsource]
  · have hparse := congrArg r.parse hsource
    rw [Reader.parse_concat_newline] at hparse
    exact hparse.symm

theorem of_mem_map_render {r : Reader} {p : Program} (hp : r.parse (read contents).source = .ok p) :
    ∀ l ∈ p.map Expr.render, IsLine l ∧ isComment l = false :=
  List.forall_mem_map.2 fun e he =>
    ⟨Reader.isLine_render_of_parse hp (not_mem_source hcr) e he,
      isComment_of_isTrimmed (Expr.isTrimmed_render (Reader.representable_of_parse hp e he))⟩

/-- A source that holds all lines of another one has no fewer symbols. -/
theorem length_flattenAll_le {p q : Program} {r : Reader} {before : List String}
    (hp : r.parse (read contents).source = .ok p)
    (hq : r.parse (joinSource (before ++ Text.lines (read contents).source)) = .ok q) :
    (Expr.flattenAll p).length ≤ (Expr.flattenAll q).length := by
  rw [← parse_joinSource_lines hcr] at hp
  obtain ⟨hp, -⟩ := Reader.parse_eq_ok_iff_symbols.1 hp
  obtain ⟨hq, -⟩ := Reader.parse_eq_ok_iff_symbols.1 hq
  rw [symbols_joinSource, List.flatMap_append, ← symbols_joinSource, ← symbols_joinSource, hp] at hq
  have hlength := congrArg List.length hq
  rw [List.length_append, List.length_map, List.length_map] at hlength
  omega

/-! ## Fixtures that pass and fixtures that fail -/

/-- Plain lines are read back as they are, and the source gives them again. -/
theorem check_stitch_of_isPlain (path : String)
    (he : ∀ l ∈ (expressionsOutcome (read contents).source).errors, IsPlain l)
    (ho : ∀ l ∈ (expressionsOutcome (read contents).source).outputs, IsPlain l) :
    check .expressions path ((read contents).stitch
      (expressionsOutcome (read contents).source).errors
      (expressionsOutcome (read contents).source).outputs) = ⟨none, ""⟩ := by
  obtain ⟨first, second, hfile, -, ⟨h₁, hplain₁⟩, ⟨h₂, hplain₂⟩, -⟩ :=
    exists_file_stitch hcr he ho
  have hsame : expressionsOutcome (joinSource (Text.lines (read contents).source)) =
      expressionsOutcome (read contents).source := by
    rw [expressionsOutcome, expressionsOutcome, parse_joinSource_lines hcr]
  rw [check, hfile, read_file h₁ h₂ fun l hl => isLine_of_mem_lines_source hcr hl]
  refine (compare_eq_passed_iff ..).2 ?_
  dsimp only [Subject.outcome]
  rw [hsame, hplain₁, hplain₂]
  exact ⟨rfl, rfl⟩

/-- A fixture fails if it expects fewer expressions than there are in a source within its own. -/
theorem check_file_ne_passed (path : String) {first second before : List String} {p q : Program}
    {e : Expr} (hp : Reader.parse {} (read contents).source = .ok (p ++ e :: q))
    (h₁ : IsSection first) (h₂ : IsSection second) (hb : ∀ l ∈ before, IsLine l)
    (herrors : plain first = []) (houtputs : plain second = p.map Expr.render) :
    check .expressions path
      (file first second (before ++ Text.lines (read contents).source)) ≠ ⟨none, ""⟩ := by
  intro hpass
  have hs : ∀ l ∈ before ++ Text.lines (read contents).source, IsLine l :=
    List.forall_mem_append.2 ⟨hb, fun l hl => isLine_of_mem_lines_source hcr hl⟩
  rw [check, read_file h₁ h₂ hs] at hpass
  obtain ⟨herr, hout⟩ := (compare_eq_passed_iff ..).1 hpass
  dsimp only [Subject.outcome] at herr hout
  cases hq : Reader.parse {} (joinSource (before ++ Text.lines (read contents).source)) with
  | error err => rw [expressionsOutcome, hq, herrors] at herr; cases herr
  | ok p' =>
    have hrep := (List.forall_mem_append.1 (Reader.representable_of_parse hp)).1
    have hrep' := Reader.representable_of_parse hq
    rw [expressionsOutcome, hq, houtputs, map_trim_render hrep, map_trim_render hrep'] at hout
    obtain rfl := Expr.map_render_inj hrep hrep' hout
    have hle := length_flattenAll_le hcr hp hq
    have hpos : (Expr.flattenAll (e :: q)).length ≠ 0 := by
      rw [ne_eq, List.length_eq_zero_iff]
      intro hnil
      cases Expr.flattenAll_eq_nil hnil
    rw [Expr.flattenAll_append, List.length_append] at hle
    omega

/-- The atom of three dashes ends the second section of the new file. The lines after it are read as
source, and the whole source is still among them. -/
theorem check_stitch_of_mem (path : String) {p : Program}
    (hp : Reader.parse {} (read contents).source = .ok p) (hmem : .atom separator ∈ p) :
    check .expressions path ((read contents).stitch [] (p.map Expr.render)) ≠ ⟨none, ""⟩ := by
  have ho := of_mem_map_render hcr hp
  have hnone : ∀ l ∈ ([] : List String), IsLine l ∧ isComment l = false :=
    fun l hl => absurd hl List.not_mem_nil
  obtain ⟨first, second, hfile, h⟩ := (read contents).exists_stitched [] (p.map Expr.render)
  obtain ⟨h₁, h₂, -⟩ := h.content (fun c hc => (of_mem_comments hc).2) (fun l hl => (hnone l hl).2)
    fun l hl => (ho l hl).2
  have hline : ∀ l ∈ first ++ second, IsLine l := fun l hl => h.isLine_of_mem hcr hnone ho hl
  rw [List.forall_mem_append] at hline
  obtain ⟨above, below, p₁, e, p₂, rfl, rfl, habove, hplain⟩ :=
    exists_cut_at_dashes (Reader.representable_of_parse hp) hmem hline.2 h₂
  have hcut : file first (above ++ separator :: below) (Text.lines (read contents).source) =
      file first above ((below ++ [separator]) ++ Text.lines (read contents).source) := by
    simp [file]
  rw [hfile, hcut]
  refine check_file_ne_passed hcr path hp (isSection_of_plain hline.1 ?_) habove ?_ h₁ hplain
  · rw [h₁]
    exact fun l hl => absurd hl List.not_mem_nil
  · intro l hl
    refine hline.2 l ?_
    rw [List.mem_append, List.mem_singleton] at hl
    rcases hl with hl | rfl <;> simp [*]

end Contents

/-- A fixture that is written again with what its source gives passes the check, unless the source has
the atom of three dashes outside of any list. Then it fails. -/
theorem check_stitch_expressions_iff {contents : String} (hcr : '\r' ∉ contents.toList)
    (path : String) :
    check .expressions path ((read contents).stitch
        (expressionsOutcome (read contents).source).errors
        (expressionsOutcome (read contents).source).outputs) = ⟨none, ""⟩ ↔
      ∀ p, Reader.parse {} (read contents).source = .ok p → .atom separator ∉ p := by
  cases hp : Reader.parse {} (read contents).source with
  | error err =>
    have houtcome : expressionsOutcome (read contents).source = { errors := [err.message] } := by
      rw [expressionsOutcome, hp]
    constructor
    · rintro - p ⟨⟩
    · intro _
      refine check_stitch_of_isPlain hcr path ?_ ?_
      · rw [houtcome]
        exact List.forall_mem_singleton.2 (isWorded_message err).isPlain
      · rw [houtcome]
        exact fun l hl => absurd hl List.not_mem_nil
  | ok p =>
    have houtcome : expressionsOutcome (read contents).source = { outputs := p.map Expr.render } := by
      rw [expressionsOutcome, hp]
    constructor
    · rintro hpass _ ⟨⟩ hmem
      rw [houtcome] at hpass
      exact check_stitch_of_mem hcr path hp hmem hpass
    · intro hnot
      refine check_stitch_of_isPlain hcr path ?_ ?_
      · rw [houtcome]
        exact fun l hl => absurd hl List.not_mem_nil
      · rw [houtcome]
        intro l hl
        obtain ⟨hline, hcomment⟩ := of_mem_map_render hcr hp l hl
        refine ⟨hline, hcomment, ?_⟩
        obtain ⟨e, he, rfl⟩ := List.mem_map.1 hl
        rw [Bool.eq_false_iff, ne_eq, isSeparator_render_iff (Reader.representable_of_parse hp e he)]
        rintro rfl
        exact hnot p rfl he

/-- Dashes within a list, within a string and in a longer atom, and a comment that is kept. -/
theorem check_stitch_expressions_iff_within :
    let contents := "; kept\n---\nstale\n---\n(--- \"; ---\")\n----\n"
    let file := "; kept\n---\n(--- \"; ---\")\n----\n---\n(--- \"; ---\")\n----\n"
    let o := expressionsOutcome (read contents).source
    o.outputs = ["(--- \"; ---\")", "----"] ∧
      (read contents).stitch o.errors o.outputs = file ∧
      check .expressions "dashes" file = ⟨none, ""⟩ := by
  intro contents file o
  have hcr : '\r' ∉ contents.toList := by decide +kernel
  have houtputs : o.outputs = ["(--- \"; ---\")", "----"] := by decide +kernel
  have hfile : (read contents).stitch o.errors o.outputs = file := by decide +kernel
  have hp : Reader.parse {} (read contents).source =
      .ok [.list [.atom "---", .string "; ---"], .atom "----"] := by decide +kernel
  refine ⟨houtputs, hfile, ?_⟩
  rw [← hfile]
  refine (check_stitch_expressions_iff hcr "dashes").2 fun p hp' => ?_
  rw [hp] at hp'
  cases hp'
  decide

/-- The atom of three dashes is written as a separator, and the new file fails. -/
theorem check_stitch_expressions_dashes :
    let contents := "---\n---\n---\n"
    let file := "---\n---\n---\n---\n"
    let o := expressionsOutcome (read contents).source
    '\r' ∉ contents.toList ∧ o = ⟨[], ["---"]⟩ ∧
      (read contents).stitch o.errors o.outputs = file ∧
      (check .expressions "dashes" file).failure = some "mismatch(es) in datatest at dashes" := by
  decide +kernel

end StackLisp.Fixture
