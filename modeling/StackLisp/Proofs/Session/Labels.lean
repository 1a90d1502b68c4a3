/-
The labels of a session can be drawn. They stand in the order of the source and apart from each
other, and none of them is empty, leaves the source, cuts a character or goes on over the end of a
line. The label of an error is no exception: the error of a source that is no program is found at one
of its items.
-/
import StackLisp.Proofs.Reading.Joining
import StackLisp.Proofs.Session.Drawing

namespace StackLisp

/-! ## Spans of labels -/

namespace Span

/-- A part of a source that a label can mark. -/
structure IsDrawable (source : String) (s : Span) : Prop where
  nonempty : s.start < s.stop
  inside : s.stop ≤ source.utf8ByteSize
  /-- No character is cut. -/
  whole : String.Pos.Raw.IsValid source ⟨s.start⟩ ∧ String.Pos.Raw.IsValid source ⟨s.stop⟩
  /-- No line ends in it. -/
  inLine : '\n' ∉ (s.slice source).toList

/-- A span that comes before another, without a byte in common. -/
structure Precedes (a b : Span) : Prop where
  start_lt : a.start < b.start
  stop_lt : a.stop < b.stop
  disjoint : a.stop ≤ b.start

theorem isDrawable_of_append {source : String} {before text after : List Char}
    (h : source.toList = before ++ (text ++ after)) (hne : text ≠ []) (hline : '\n' ∉ text) :
    IsDrawable source ⟨Text.byteSize before, Text.byteSize before + Text.byteSize text⟩ where
  nonempty := Nat.lt_add_of_pos_right (Text.byteSize_pos hne)
  inside := by
    have hsize := Text.byteSize_eq_utf8ByteSize source.toList
    rw [String.ofList_toList, h, Text.byteSize_append, Text.byteSize_append] at hsize
    show Text.byteSize before + Text.byteSize text ≤ source.utf8ByteSize
    omega
  whole := isValid_of_append h
  inLine := by rwa [slice_eq h, String.toList_ofList]

theorem Tiles.bounds {a b : Nat} {spans : List Span} (h : Tiles a b spans) :
    ∀ s ∈ spans, a ≤ s.start ∧ s.start < s.stop := by
  induction spans generalizing a with
  | nil => exact List.forall_mem_nil _
  | cons s spans ih =>
    obtain ⟨rfl, hlt, hrest⟩ := h
    intro s' hs'
    rcases List.mem_cons.1 hs' with rfl | hs'
    · exact ⟨Nat.le_refl _, hlt⟩
    · obtain ⟨hle, hlt'⟩ := ih hrest s' hs'
      exact ⟨by omega, hlt'⟩

/-- Spans that follow on one another are in order and apart. -/
theorem Tiles.pairwise {a b : Nat} {spans : List Span} (h : Tiles a b spans) :
    spans.Pairwise Precedes := by
  induction spans generalizing a with
  | nil => exact .nil
  | cons s spans ih =>
    obtain ⟨-, hlt, hrest⟩ := h
    refine .cons (fun s' hs' => ?_) (ih hrest)
    obtain ⟨hle, hlt'⟩ := hrest.bounds s' hs'
    exact ⟨by omega, by omega, hle⟩

end Span

/-! ## Items stay in their lines -/

/-- Only a run of blanks goes on over the end of a line. -/
theorem Lexeme.newline_not_mem_first {c : Char} (hc : Text.isBlank c = false) (r : List Char) :
    '\n' ∉ (first c r).1.text := by
  intro h
  obtain ⟨a, b, htext⟩ := List.append_of_mem h
  have happ := first_append c r
  rw [htext, List.append_assoc, List.cons_append] at happ
  cases a with
  | nil =>
    obtain ⟨rfl, -⟩ := List.cons.inj happ
    exact absurd hc (by decide)
  | cons d a =>
    rw [List.cons_append] at happ
    obtain ⟨rfl, hr⟩ := List.cons.inj happ
    -- the lexeme is the one that the text up to the line feed starts with, and is too long for it
    have hfirst := first_append_newline (b ++ (first d r).2) hc a
    rw [hr] at hfirst
    have hsame : (first d r).1 = (first d a).1 := by rw [hfirst]
    have hlen := congrArg List.length (first_append d a)
    rw [← hsame, htext] at hlen
    simp only [List.length_append, List.length_cons] at hlen
    omega

theorem Lexeme.newline_not_mem_text {cs : List Char} : ∀ l ∈ ofText cs,
    l.kind? ≠ some .whitespace → '\n' ∉ l.text :=
  forall_mem_ofText (fun _ r hk => newline_not_mem_first (not_isBlank_of_kind_first hk) r) cs

namespace Tokenizer

theorem isDrawable_of_mem_items {source : String} {i : Item}
    (h : i ∈ Session.tokenizer.items source) : i.span.IsDrawable source := by
  obtain ⟨before, l, after, hmem, hkind, hsrc, rfl⟩ := exists_nonblank_of_mem_items h
  rw [Lexeme.span_itemAt]
  exact Span.isDrawable_of_append hsrc (Lexeme.text_ne_nil l hmem)
    (Lexeme.newline_not_mem_text l hmem hkind)

/-- Items keep the order of the source. -/
theorem pairwise_items (t : Tokenizer) (source : String) :
    (t.items source).Pairwise fun a b => a.span.Precedes b.span := by
  have hall := (Lexeme.tiles_place (Lexeme.ofText source.toList) 0 Lexeme.text_ne_nil).pairwise
  rw [List.pairwise_map] at hall
  exact hall.sublist List.filter_sublist

end Tokenizer

/-! ## Errors stand at items -/

theorem Reader.Reportable.exists_item {limit : Nat} {items : List Item} {err : ParseError}
    (h : Reportable limit [] items err) : ∃ i ∈ items, i.span = err.span := by
  cases h with
  | lex he => exact ⟨_, he, rfl⟩
  | unexpected ht _ | tooDeep ht _ | unterminated ht _ => exact ⟨_, ht, rfl⟩
  | unterminatedBefore ho => cases ho

/-- A source that is no program is so because of one of its items. -/
theorem Reader.exists_item_of_parse {r : Reader} {source : String} {err : ParseError}
    (h : r.parse source = .error err) :
    ∃ i ∈ Session.tokenizer.items source, i.span = err.span := by
  have hr := reportable_of_parse h
  rw [Tokenizer.nonblank_items, ← Tokenizer.items_skipping] at hr
  exact hr.exists_item

namespace Session

/-- The labels over the tokens of a source can be drawn: they are in order and apart, and each of
them marks some whole characters of one line. The label of an error marks one of the same items, and
so it is drawn as well. -/
theorem labels_drawable (source : String) :
    (∀ l ∈ labels source, l.span.IsDrawable source) ∧
    (labels source).Pairwise (fun a b => a.span.Precedes b.span) ∧
    ∀ (r : Reader) (err : ParseError), r.parse source = .error err →
      (∃ i ∈ tokenizer.items source, i.span = err.span) ∧
      err.span.IsDrawable source ∧
      ∀ name, ∃ snippet,
        Snippet.draw name source [errorLabel err.span err.message] = some snippet := by
  refine ⟨fun l hl => ?_, ?_, fun r err h => ?_⟩
  · obtain ⟨i, hi, rfl⟩ := List.mem_map.1 hl
    rw [span_itemLabel]
    exact Tokenizer.isDrawable_of_mem_items hi
  · rw [labels, List.pairwise_map]
    simp only [span_itemLabel]
    exact Tokenizer.pairwise_items tokenizer source
  · obtain ⟨i, hi, hspan⟩ := Reader.exists_item_of_parse h
    refine ⟨⟨i, hi, hspan⟩, ?_, fun name => ?_⟩
    · rw [← hspan]
      exact Tokenizer.isDrawable_of_mem_items hi
    · exact exists_draw_of_mem_items hi (List.mem_singleton_self _) hspan.symm name

end Session

end StackLisp
