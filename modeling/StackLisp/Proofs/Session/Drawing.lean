/-
Drawing the tokens of a source. An item that is no blank run starts at a character other than a line
feed. So it stands in a line of the source, and that line is drawn with the label of the item. Only a
source without such items cannot be drawn.
-/
import StackLisp.Session
import StackLisp.Proofs.Token.Tiling

namespace StackLisp

/-! ## Lines with labels -/

namespace Snippet

variable {labels : List Label} {l : Label}

/-- A label that starts in a line makes it a labelled line. -/
theorem labelledLines_of_here (hl : l ∈ labels) {start : Nat} {line : List Char}
    (hle : start ≤ l.span.start) (hlt : l.span.start < start + Text.byteSize line) (number : Nat)
    (rest : List (List Char)) : labelledLines labels number start (line :: rest) ≠ [] := by
  have hhere : l ∈ labels.filter fun l =>
      start ≤ l.span.start && l.span.start < start + Text.byteSize line := by
    simp [hl, hle, hlt]
  rw [labelledLines]
  split
  · rename_i hempty
    rw [List.isEmpty_iff.1 hempty] at hhere
    cases hhere
  · exact List.cons_ne_nil _ _

theorem labelledLines_of_more {number start : Nat} {line : List Char} {rest : List (List Char)}
    (h : labelledLines labels (number + 1) (start + Text.byteSize line + 1) rest ≠ []) :
    labelledLines labels number start (line :: rest) ≠ [] := by
  rw [labelledLines]
  split
  · exact h
  · exact List.cons_ne_nil _ _

/-- A label that starts at a character other than a line feed starts in a line. -/
theorem labelledLines_ne_nil (hl : l ∈ labels) {c : Char} (hc : c ≠ '\n') {after : List Char} :
    ∀ {lines : List (List Char)} {number start : Nat} {before : List Char},
      ['\n'].intercalate lines = before ++ c :: after →
      l.span.start = start + Text.byteSize before →
      labelledLines labels number start lines ≠ []
  | [], number, start, before, h, hs => by simp at h
  | [line], number, start, before, h, hs => by
    rw [List.intercalate_singleton] at h
    refine labelledLines_of_here hl (by omega) ?_ number []
    have := c.utf8Size_pos
    rw [h, Text.byteSize_append, Text.byteSize]
    omega
  | line :: line' :: rest, number, start, before, h, hs => by
    rw [List.intercalate_cons_cons, List.append_assoc, List.singleton_append] at h
    rcases List.append_eq_append_iff.1 h with ⟨more, rfl, hmore⟩ | ⟨more, rfl, hmore⟩
    -- the character stands behind the line and its line feed
    · cases more with
      | nil => exact absurd (List.cons.inj hmore).1.symm hc
      | cons d more =>
        obtain ⟨rfl, hrest⟩ := List.cons.inj hmore
        refine labelledLines_of_more (labelledLines_ne_nil hl hc hrest ?_)
        have : '\n'.utf8Size = 1 := rfl
        rw [hs, Text.byteSize_append, Text.byteSize]
        omega
    -- the character stands in the line
    · cases more with
      | nil => exact absurd (List.cons.inj hmore).1 hc
      | cons d more =>
        obtain ⟨rfl, -⟩ := List.cons.inj hmore
        refine labelledLines_of_here hl (by omega) ?_ number _
        have := c.utf8Size_pos
        rw [Text.byteSize_append, Text.byteSize]
        omega

theorem exists_draw (hl : l ∈ labels) {source : String} {before after : List Char} {c : Char}
    (h : source.toList = before ++ c :: after) (hc : c ≠ '\n')
    (hs : l.span.start = Text.byteSize before) (name : String) :
    ∃ snippet, draw name source labels = some snippet := by
  have hlines : ['\n'].intercalate (source.toList.splitOn '\n') = before ++ c :: after := by
    rw [List.intercalate_splitOn, h]
  have hne : labelledLines labels 1 0 (source.toList.splitOn '\n') ≠ [] :=
    labelledLines_ne_nil hl hc hlines (by rw [hs, Nat.zero_add])
  unfold draw
  dsimp only
  cases hlast : (labelledLines labels 1 0 (source.toList.splitOn '\n')).getLast? with
  | none => exact absurd (List.getLast?_eq_none_iff.1 hlast) hne
  | some last => exact ⟨_, rfl⟩

end Snippet

/-! ## Items stand in lines -/

theorem Lexeme.not_isBlank_of_kind_first {c : Char} {r : List Char}
    (h : (first c r).1.kind? ≠ some .whitespace) : Text.isBlank c = false := by
  rw [Bool.eq_false_iff]
  intro hb
  rw [first_blank r hb] at h
  exact h rfl

theorem Lexeme.exists_text_of_mem {cs : List Char} : ∀ l ∈ ofText cs,
    l.kind? ≠ some .whitespace → ∃ c r, l.text = c :: r ∧ Text.isBlank c = false := by
  refine forall_mem_ofText (fun c r hk => ?_) cs
  have hc := not_isBlank_of_kind_first hk
  have happ := first_append c r
  cases htext : (first c r).1.text with
  | nil => exact absurd htext (isMunched_first c r).text_ne_nil
  | cons d w =>
    rw [htext, List.cons_append] at happ
    obtain ⟨rfl, -⟩ := List.cons.inj happ
    exact ⟨d, w, rfl, hc⟩

/-- Where blanks are skipped, an item is a lexeme other than a run of blanks. -/
theorem Tokenizer.exists_nonblank_of_mem_items {source : String} {i : Item}
    (h : i ∈ Session.tokenizer.items source) : ∃ before l after,
      l ∈ Lexeme.ofText source.toList ∧ l.kind? ≠ some .whitespace ∧
        source.toList = before ++ (l.text ++ after) ∧ i = l.itemAt (Text.byteSize before) := by
  have hkeep : i.isWhitespace = false := by
    have hk := (List.mem_filter.1 h).2
    simpa [keeps, Session.tokenizer] using hk
  obtain ⟨before, l, after, hmem, hsrc, rfl⟩ := exists_lexeme_of_mem_items h
  refine ⟨before, l, after, hmem, ?_, hsrc, rfl⟩
  rw [ne_eq, ← Lexeme.isWhitespace_itemAt l (Text.byteSize before), hkeep]
  decide

/-- An item starts at a character that is not blank, where blanks are skipped. -/
theorem Tokenizer.exists_char_of_mem_items {source : String} {i : Item}
    (h : i ∈ Session.tokenizer.items source) : ∃ before c after,
      source.toList = before ++ c :: after ∧ Text.isBlank c = false ∧
        i.span.start = Text.byteSize before := by
  obtain ⟨before, l, after, hmem, hkind, hsrc, rfl⟩ := exists_nonblank_of_mem_items h
  obtain ⟨c, r, htext, hc⟩ := Lexeme.exists_text_of_mem l hmem hkind
  refine ⟨before, c, r ++ after, ?_, hc, ?_⟩
  · rw [hsrc, htext, List.cons_append]
  · rw [Lexeme.span_itemAt]

namespace Session

theorem span_itemLabel (i : Item) : (itemLabel i).span = i.span := by
  cases i <;> rfl

/-- Labels are drawn if one of them stands where an item does. -/
theorem exists_draw_of_mem_items {source : String} {i : Item} (hi : i ∈ tokenizer.items source)
    {labels : List Snippet.Label} {l : Snippet.Label} (hl : l ∈ labels)
    (hspan : l.span = i.span) (name : String) :
    ∃ snippet, Snippet.draw name source labels = some snippet := by
  obtain ⟨before, c, after, hsrc, hc, hs⟩ := Tokenizer.exists_char_of_mem_items hi
  have hne : c ≠ '\n' := by
    rintro rfl
    exact absurd hc (by decide)
  exact Snippet.exists_draw hl hsrc hne (by rw [hspan, hs]) name

/-- The tokens of a source are shown if there is anything to show. -/
theorem exists_showTokens {source : String} (h : tokenizer.items source ≠ []) (name : String) :
    ∃ report, showTokens name source = some report ∧
      report.ok = (tokenizer.items source).all isToken := by
  obtain ⟨i, hi⟩ := List.exists_mem_of_ne_nil _ h
  have hlabel : itemLabel i ∈ labels source := List.mem_map_of_mem hi
  obtain ⟨snippet, hdraw⟩ := exists_draw_of_mem_items hi hlabel (span_itemLabel i) name
  unfold showTokens
  rw [hdraw]
  exact ⟨_, rfl, rfl⟩

end Session

end StackLisp
