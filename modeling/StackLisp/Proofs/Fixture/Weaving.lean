/-
Comments that are put back. A fixture is written again with other errors and outputs, and each of its
comments is put before the first line at which its place has been reached, or after the last output.
Wherever the places are, the comments come out in the order in which they went in, each of them once
and before the source, and the errors and outputs come out as they are.

Main statement: nothing is lost when a fixture is written again.
-/
import StackLisp.Proofs.Fixture.Sections

namespace StackLisp.Fixture

open Text (IsLine)

/-! ## What is read -/

theorem cutSection_subset (ls : List (Nat × String)) :
    (cutSection ls).1 ⊆ ls ∧ (cutSection ls).2 ⊆ ls :=
  ⟨(List.takeWhile_sublist _).subset, (List.drop_sublist _ _).subset⟩

/-- Comments and source of a file are read from its numbered lines. -/
theorem read_eq (contents : String) :
    let first := cutSection (numbered 0 (Text.lines contents))
    let second := cutSection first.2
    (read contents).comments = (first.1 ++ second.1).filter (fun l => isComment l.2) ∧
      (read contents).source = joinSource (second.2.map (·.2)) := by
  simp only [read, numbered, and_self]

theorem of_mem_comments {contents : String} {c : Nat × String} (h : c ∈ (read contents).comments) :
    c.2 ∈ Text.lines contents ∧ isComment c.2 = true := by
  rw [(read_eq contents).1, List.mem_filter, List.mem_append] at h
  have hc : c ∈ numbered 0 (Text.lines contents) := by
    rcases h.1 with hc | hc
    · exact (cutSection_subset _).1 hc
    · exact (cutSection_subset _).2 ((cutSection_subset _).1 hc)
  refine ⟨?_, h.2⟩
  rw [← map_snd_numbered 0 (Text.lines contents)]
  exact List.mem_map_of_mem hc

theorem exists_source_eq (contents : String) :
    ∃ ls ⊆ Text.lines contents, (read contents).source = joinSource ls := by
  refine ⟨_, ?_, (read_eq contents).2⟩
  have hsub := List.map_subset (·.2) (List.Subset.trans (cutSection_subset _).2
    (cutSection_subset (numbered 0 (Text.lines contents))).2)
  rwa [map_snd_numbered] at hsub

/-! ## Weaving step by step -/

/-- `Woven place n waiting lines out rest`: after `n` lines that are written already, the lines are
written with those waiting comments before each of them whose places have been reached. This gives
`out`, and `rest` is still waiting. -/
inductive Woven (place : Nat → Nat) :
    Nat → List (Nat × String) → List String → List String → List (Nat × String) → Prop
  | done {n : Nat} {waiting : List (Nat × String)} : Woven place n waiting [] [] waiting
  | comment {n : Nat} {c : Nat × String} {waiting rest : List (Nat × String)} {l : String}
      {lines out : List String} : place c.1 ≤ n →
      Woven place (n + 1) waiting (l :: lines) out rest →
      Woven place n (c :: waiting) (l :: lines) (c.2 :: out) rest
  | line {n : Nat} {waiting rest : List (Nat × String)} {l : String} {lines out : List String} :
      (∀ c ∈ waiting.head?, n < place c.1) → Woven place (n + 1) waiting lines out rest →
      Woven place n waiting (l :: lines) (l :: out) rest

variable {place : Nat → Nat} {n : Nat} {waiting rest : List (Nat × String)}
  {lines out : List String}

theorem woven_due (l : String)
    (h : Woven place (n + (due place n waiting).1.length + 1) (due place n waiting).2 lines out
      rest) :
    Woven place n waiting (l :: lines) ((due place n waiting).1 ++ l :: out) rest := by
  fun_induction due place n waiting with
  | case1 n => exact .line (by simp) h
  | case2 n c cs hc more ih =>
    refine .comment hc (ih ?_)
    rwa [Nat.add_right_comm n 1]
  | case3 n c cs hc =>
    refine .line ?_ h
    rintro _ ⟨⟩
    exact Nat.lt_of_not_le hc

/-- Weaving goes step by step. -/
theorem woven_weave (place : Nat → Nat) (n : Nat) (waiting : List (Nat × String))
    (lines : List String) :
    Woven place n waiting lines (weave place n waiting lines).1 (weave place n waiting lines).2 := by
  fun_induction weave place n waiting lines with
  | case1 => exact .done
  | case2 n waiting l lines before more ih => exact woven_due l ih

/-- Each step is determined by what is waiting. -/
theorem Woven.unique (h : Woven place n waiting lines out rest) {out' : List String}
    {rest' : List (Nat × String)} (h' : Woven place n waiting lines out' rest') :
    out = out' ∧ rest = rest' := by
  induction h generalizing out' with
  | done => cases h'; exact ⟨rfl, rfl⟩
  | comment hc _ ih =>
    cases h' with
    | comment _ h' =>
      obtain ⟨rfl, rfl⟩ := ih h'
      exact ⟨rfl, rfl⟩
    | line hnot _ => exact absurd hc (Nat.not_le_of_lt (hnot _ rfl))
  | line hnot _ ih =>
    cases h' with
    | comment hc _ => exact absurd hc (Nat.not_le_of_lt (hnot _ rfl))
    | line _ h' =>
      obtain ⟨rfl, rfl⟩ := ih h'
      exact ⟨rfl, rfl⟩

/-- The lines come out as they are, and the comments in their order. -/
theorem Woven.content (h : Woven place n waiting lines out rest)
    (hw : ∀ c ∈ waiting, isComment c.2 = true) (hl : ∀ l ∈ lines, isComment l = false) :
    plain out = lines ∧
      ∃ taken, waiting = taken ++ rest ∧ out.filter isComment = taken.map (·.2) := by
  induction h with
  | done => exact ⟨rfl, [], rfl, rfl⟩
  | @comment n c waiting rest l lines out _ _ ih =>
    rw [List.forall_mem_cons] at hw
    obtain ⟨hplain, taken, rfl, hout⟩ := ih hw.2 hl
    refine ⟨?_, c :: taken, rfl, ?_⟩
    · rw [plain, List.filter_cons_of_neg (by simp [hw.1])]
      exact hplain
    · rw [List.filter_cons_of_pos hw.1, hout, List.map_cons]
  | @line n waiting rest l lines out _ _ ih =>
    rw [List.forall_mem_cons] at hl
    obtain ⟨hplain, taken, rfl, hout⟩ := ih hw hl.2
    refine ⟨?_, taken, rfl, ?_⟩
    · rw [plain, List.filter_cons_of_pos (by simp [hl.1])]
      exact congrArg _ hplain
    · rw [List.filter_cons_of_neg (by simp [hl.1]), hout]

/-! ## The sections that are written -/

/-- Comments are put before each error, and if there is none before the separator. -/
def pad (errors : List String) : List String := if errors.isEmpty then [separator] else []

theorem pad_of_ne_nil {errors : List String} (h : errors ≠ []) : pad errors = [] := by
  cases errors with
  | nil => exact absurd rfl h
  | cons e errors => rfl

theorem append_pad_ne_nil (errors : List String) : errors ++ pad errors ≠ [] := by
  cases errors <;> exact List.cons_ne_nil _ _

theorem isComment_of_mem_pad {errors : List String} {l : String} (h : l ∈ pad errors) :
    isComment l = false := by
  unfold pad at h
  split at h
  · obtain rfl := List.mem_singleton.1 h
    exact isComment_separator
  · cases h

/-- `Stitched place cs errors outputs first second`: the comments are put back into the first two
sections, and those still waiting then come at the end of the second. -/
inductive Stitched (place : Nat → Nat) (cs : List (Nat × String)) (errors outputs : List String) :
    List String → List String → Prop
  | intro {first second : List String} {rest late : List (Nat × String)} :
      Woven place 0 cs (errors ++ pad errors) (first ++ pad errors) rest →
      Woven place (first.length + 1) rest outputs second late →
      Stitched place cs errors outputs first (second ++ late.map (·.2))

theorem exists_stitched (f : Fixture) (errors outputs : List String) :
    ∃ first second, f.stitch errors outputs = file first second (Text.lines f.source) ∧
      Stitched (f.shifted errors.length outputs.length) f.comments errors outputs first second := by
  cases errors with
  | nil =>
    refine ⟨_, _, ?_, .intro (woven_due separator .done) (woven_weave ..)⟩
    simp [stitch, file]
  | cons e errors =>
    have hfirst := woven_weave (f.shifted (errors.length + 1) outputs.length) 0 f.comments
      (e :: errors)
    refine ⟨_, _, ?_, .intro (by simpa [pad] using hfirst) (woven_weave ..)⟩
    simp [stitch, file]

theorem Stitched.unique {cs : List (Nat × String)}
    {errors outputs first second first' second' : List String}
    (h : Stitched place cs errors outputs first second)
    (h' : Stitched place cs errors outputs first' second') :
    first = first' ∧ second = second' := by
  obtain ⟨h₁, h₂⟩ := h
  obtain ⟨h₁', h₂'⟩ := h'
  obtain ⟨hfirst, rfl⟩ := h₁.unique h₁'
  obtain rfl := List.append_cancel_right hfirst
  obtain ⟨rfl, rfl⟩ := h₂.unique h₂'
  exact ⟨rfl, rfl⟩

/-- The sections that are written hold the errors, the outputs and the comments, each of them once. -/
theorem Stitched.content {cs : List (Nat × String)}
    {errors outputs first second : List String}
    (h : Stitched place cs errors outputs first second) (hcs : ∀ c ∈ cs, isComment c.2 = true)
    (he : ∀ l ∈ errors, isComment l = false) (ho : ∀ l ∈ outputs, isComment l = false) :
    plain first = errors ∧ plain second = outputs ∧
      first.filter isComment ++ second.filter isComment = cs.map (·.2) := by
  obtain ⟨h₁, h₂⟩ := h
  rename_i second rest late
  have hpad : ∀ l ∈ pad errors, isComment l = false := fun l hl => isComment_of_mem_pad hl
  obtain ⟨hplain₁, taken₁, rfl, hout₁⟩ :=
    h₁.content hcs (List.forall_mem_append.2 ⟨he, hpad⟩)
  rw [List.forall_mem_append] at hcs
  obtain ⟨hplain₂, taken₂, rfl, hout₂⟩ := h₂.content hcs.2 ho
  rw [List.forall_mem_append] at hcs
  have hlate : ∀ l ∈ late.map (·.2), isComment l = true := by
    intro l hl
    obtain ⟨c, hc, rfl⟩ := List.mem_map.1 hl
    exact hcs.2.2 c hc
  refine ⟨?_, ?_, ?_⟩
  · rw [plain_append, plain_of_forall hpad] at hplain₁
    exact List.append_cancel_right hplain₁
  · rw [plain_append, hplain₂, plain_eq_nil hlate, List.append_nil]
  · rw [List.filter_append, filter_isComment_eq_nil hpad, List.append_nil] at hout₁
    rw [List.filter_append, hout₁, hout₂, List.filter_eq_self.2 hlate, List.map_append,
      List.map_append]

/-! ## Reading what is written -/

section Contents

variable {contents : String} (hcr : '\r' ∉ contents.toList)
include hcr

theorem not_mem_source : '\r' ∉ (read contents).source.toList := by
  obtain ⟨ls, hls, hsource⟩ := exists_source_eq contents
  rw [hsource, joinSource]
  exact Text.not_mem_unlines fun l hl =>
    Text.isLine_of_mem_lines hcr (hls ((List.dropWhile_sublist _).subset hl))

theorem isLine_of_mem_lines_source {l : String} (hl : l ∈ Text.lines (read contents).source) :
    IsLine l :=
  Text.isLine_of_mem_lines (not_mem_source hcr) hl

/-- A source that is written and read again loses a line feed at its end, if it has one. -/
theorem joinSource_lines_source :
    (read contents).source = joinSource (Text.lines (read contents).source) ∨
      (read contents).source = joinSource (Text.lines (read contents).source) ++ "\n" := by
  obtain ⟨ls, hls, hsource⟩ := exists_source_eq contents
  rw [hsource]
  exact joinSource_lines_joinSource fun l hl => Text.isLine_of_mem_lines hcr (hls hl)

variable {errors outputs first second : List String}
  (h : Stitched place (read contents).comments errors outputs first second)
  (he : ∀ l ∈ errors, IsLine l ∧ isComment l = false)
  (ho : ∀ l ∈ outputs, IsLine l ∧ isComment l = false)
include h he ho

theorem Stitched.isLine_of_mem {l : String} (hl : l ∈ first ++ second) : IsLine l := by
  obtain ⟨h₁, h₂, hc⟩ := h.content (fun c hc => (of_mem_comments hc).2)
    (fun l hl => (he l hl).2) fun l hl => (ho l hl).2
  cases hcomment : isComment l with
  | true =>
    have hmem : l ∈ (read contents).comments.map (·.2) := by
      rw [← hc, ← List.filter_append]
      exact List.mem_filter.2 ⟨hl, hcomment⟩
    obtain ⟨c, hc, rfl⟩ := List.mem_map.1 hmem
    exact Text.isLine_of_mem_lines hcr (of_mem_comments hc).1
  | false =>
    have hmem : l ∈ plain (first ++ second) := List.mem_filter.2 ⟨hl, by simp [hcomment]⟩
    rw [plain_append, h₁, h₂, List.mem_append] at hmem
    rcases hmem with hmem | hmem
    · exact (he l hmem).1
    · exact (ho l hmem).1

end Contents

/-- Comments are no separators, so a section is free of separators if its other lines are. -/
theorem isSection_of_plain {ls : List String} (hline : ∀ l ∈ ls, IsLine l)
    (hplain : ∀ l ∈ plain ls, isSeparator l = false) : IsSection ls := by
  intro l hl
  refine ⟨hline l hl, ?_⟩
  cases hcomment : isComment l with
  | true => exact isSeparator_of_isComment hcomment
  | false => exact hplain l (List.mem_filter.2 ⟨hl, by simp [hcomment]⟩)

/-- A fixture that is written again with plain lines is a file of three sections. -/
theorem exists_file_stitch {contents : String} (hcr : '\r' ∉ contents.toList)
    {errors outputs : List String} (he : ∀ l ∈ errors, IsPlain l) (ho : ∀ l ∈ outputs, IsPlain l) :
    ∃ first second, (read contents).stitch errors outputs =
        file first second (Text.lines (read contents).source) ∧
      Stitched ((read contents).shifted errors.length outputs.length) (read contents).comments
        errors outputs first second ∧
      (IsSection first ∧ plain first = errors) ∧ (IsSection second ∧ plain second = outputs) ∧
      first.filter isComment ++ second.filter isComment = (read contents).comments.map (·.2) := by
  obtain ⟨first, second, hfile, h⟩ := (read contents).exists_stitched errors outputs
  obtain ⟨h₁, h₂, hc⟩ := h.content (fun c hc => (of_mem_comments hc).2)
    (fun l hl => (he l hl).notComment) fun l hl => (ho l hl).notComment
  have hline : ∀ l ∈ first ++ second, IsLine l := fun l hl =>
    h.isLine_of_mem hcr (fun l hl => ⟨(he l hl).line, (he l hl).notComment⟩)
      (fun l hl => ⟨(ho l hl).line, (ho l hl).notComment⟩) hl
  rw [List.forall_mem_append] at hline
  refine ⟨first, second, hfile, h, ⟨isSection_of_plain hline.1 ?_, h₁⟩,
    ⟨isSection_of_plain hline.2 ?_, h₂⟩, hc⟩
  · rw [h₁]
    exact fun l hl => (he l hl).notSeparator
  · rw [h₂]
    exact fun l hl => (ho l hl).notSeparator

/-- Nothing is lost when a fixture is written again. The new errors and outputs are read back as they
are, the source is read back but for line feeds at its end, and so are all comments, each of them
once and in their order. -/
theorem read_stitch_loses_nothing {contents : String} (hcr : '\r' ∉ contents.toList)
    {errors outputs : List String} (he : ∀ l ∈ errors, IsPlain l) (ho : ∀ l ∈ outputs, IsPlain l) :
    let f := read contents
    let again := read (f.stitch errors outputs)
    again.errors = errors ∧ again.outputs = outputs ∧
      Text.dropNewlines again.source = Text.dropNewlines f.source ∧
      again.comments.map (·.2) = f.comments.map (·.2) := by
  obtain ⟨first, second, hfile, -, ⟨h₁, hplain₁⟩, ⟨h₂, hplain₂⟩, hc⟩ :=
    exists_file_stitch hcr he ho
  dsimp only
  rw [hfile, read_file h₁ h₂ fun l hl => isLine_of_mem_lines_source hcr hl]
  refine ⟨hplain₁, hplain₂, ?_, ?_⟩
  · dsimp only
    rcases joinSource_lines_source hcr with hsource | hsource
    · rw [← hsource]
    · have hdrop := congrArg Text.dropNewlines hsource
      rw [Text.dropNewlines_append_newline] at hdrop
      exact hdrop.symm
  · rw [List.map_append, map_snd_commentsFrom, map_snd_commentsFrom, hc]

/-- A file with comments in both sections, more errors and fewer outputs than before, and a source
that ends in empty lines. -/
theorem read_stitch_loses_nothing_moved :
    let contents := "; a\nold\n---\n1\n; b\n2\n; c\n---\n(+ 1 2)\n\n\n"
    let file := "; a\n; b\nnew\n; c\nworse\n---\n\n---\n(+ 1 2)\n\n"
    (read contents).stitch ["new", "worse"] [""] = file ∧ (read contents).source = "(+ 1 2)\n\n" ∧
      (read file).errors = ["new", "worse"] ∧ (read file).outputs = [""] ∧
      Text.dropNewlines (read file).source = Text.dropNewlines (read contents).source ∧
      (read file).comments.map (·.2) = ["; a", "; b", "; c"] := by
  intro contents file
  have he : ∀ l ∈ ["new", "worse"], IsPlain l := by decide +kernel
  have ho : ∀ l ∈ [""], IsPlain l := by decide +kernel
  have hfile : (read contents).stitch ["new", "worse"] [""] = file := by decide +kernel
  have hsource : (read contents).source = "(+ 1 2)\n\n" := by decide +kernel
  have hcomments : (read contents).comments.map (·.2) = ["; a", "; b", "; c"] := by decide +kernel
  have hcr : '\r' ∉ contents.toList := by decide +kernel
  have h := read_stitch_loses_nothing hcr he ho
  dsimp only at h
  rw [hfile, hcomments] at h
  exact ⟨hfile, hsource, h⟩

end StackLisp.Fixture
