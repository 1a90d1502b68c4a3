/-
Scans give the items of a source one at a time and then end. A scan that skips blanks passes over a
whole blank run at once, since a run is one lexeme.
-/
import StackLisp.Proofs.Token.First

namespace StackLisp

theorem Lexeme.kind_first_of_not_isBlank {c : Char} (h : Text.isBlank c = false) (r : List Char) :
    (first c r).1.kind? ≠ some .whitespace := by
  cases start c with
  | blank hc => rw [h] at hc; cases hc
  | lparen | rparen | zero => simp [first_lparen, first_rparen, first_zero]
  | digit hc h0 => simp [first_digit r hc h0]
  | atom hc => simp [first_atomStart r hc]
  | quote =>
    rw [first_quote, ofUnits]
    split <;> simp
  | stray _ hf => simp [hf r]

theorem Lexeme.isWhitespace_itemAt (l : Lexeme) (start : Nat) :
    (l.itemAt start).isWhitespace = true ↔ l.kind? = some .whitespace := by
  unfold itemAt Item.isWhitespace
  cases l.kind? <;> simp

namespace Scan

/-- `Yields s items`: the scan `s` gives the items in turn, and then it has ended. -/
inductive Yields : Scan → List Item → Prop
  | done {s : Scan} : s.next.1 = none → Yields s []
  | item {s : Scan} {i : Item} {items : List Item} :
      s.next.1 = some i → Yields s.next.2 items → Yields s (i :: items)

theorem Yields.of_next_eq {s s' : Scan} {items : List Item} (h : Yields s' items)
    (heq : s.next = s'.next) : Yields s items := by
  cases h with
  | done hn => exact .done (by rw [heq, hn])
  | item hn hi => exact .item (by rw [heq, hn]) (by rw [heq]; exact hi)

theorem Yields.unique {s : Scan} {items items' : List Item} (h : Yields s items)
    (h' : Yields s items') : items = items' := by
  induction h generalizing items' with
  | done hn =>
    cases h' with
    | done _ => rfl
    | item hn' _ => rw [hn] at hn'; cases hn'
  | item hn _ ih =>
    cases h' with
    | done hn' => rw [hn] at hn'; cases hn'
    | item hn' hi' =>
      rw [hn] at hn'
      cases hn'
      rw [ih hi']

/-! ## One step -/

theorem passBlanks_of_head {s : Scan} (h : ∀ c ∈ s.ahead.head?, Text.isBlank c = false) :
    s.passBlanks = s := by
  obtain ⟨t, offset, ahead⟩ := s
  cases ahead with
  | nil => rfl
  | cons c r =>
    have hc : Text.isBlank c = false := h c rfl
    simp [passBlanks, hc, Text.byteSize]

variable {t : Tokenizer} (offset : Nat)

theorem next_nil : (⟨t, offset, []⟩ : Scan).next.1 = none := by
  unfold next passBlanks
  cases t.skipsBlanks <;> rfl

/-- Where blanks are skipped, a scan goes on behind the run of blanks ahead. -/
theorem next_blank {c : Char} (ht : t.skipsBlanks = true) (hc : Text.isBlank c = true)
    (r : List Char) : (⟨t, offset, c :: r⟩ : Scan).next =
      (⟨t, offset + Text.byteSize (Lexeme.first c r).1.text, (Lexeme.first c r).2⟩ : Scan).next := by
  rw [Lexeme.first_blank r hc]
  have hpass : (⟨t, offset, c :: r⟩ : Scan).passBlanks =
      ⟨t, offset + Text.byteSize (c :: r.takeWhile Text.isBlank), r.dropWhile Text.isBlank⟩ := by
    simp [passBlanks, hc]
  -- no blank is left there, so that passing over blanks again changes nothing
  have hstay : (⟨t, offset + Text.byteSize (c :: r.takeWhile Text.isBlank),
      r.dropWhile Text.isBlank⟩ : Scan).passBlanks = _ := passBlanks_of_head fun d hd => by
    have hn := List.head?_dropWhile_not Text.isBlank r
    rw [Option.mem_def.1 hd] at hn
    exact hn
  unfold next
  simp only [ht, if_true]
  rw [hpass, hstay]

theorem next_lexeme {c : Char} (h : t.skipsBlanks = false ∨ Text.isBlank c = false)
    (r : List Char) : (⟨t, offset, c :: r⟩ : Scan).next =
      (some ((Lexeme.first c r).1.itemAt offset),
        ⟨t, offset + Text.byteSize (Lexeme.first c r).1.text, (Lexeme.first c r).2⟩) := by
  unfold next
  split
  · rename_i ht
    have hc : Text.isBlank c = false := h.resolve_left fun hf => by rw [hf] at ht; cases ht
    rw [passBlanks_of_head fun d hd => by cases hd; exact hc]
  · rfl

/-! ## Whole scans -/

theorem yields_place (t : Tokenizer) (offset : Nat) (cs : List Char) :
    Yields ⟨t, offset, cs⟩ ((Lexeme.place offset (Lexeme.ofText cs)).filter t.keeps) := by
  fun_induction Lexeme.ofText cs generalizing offset with
  | case1 => exact .done (next_nil offset)
  | case2 c r l ih =>
    rw [Lexeme.place, List.filter_cons]
    by_cases h : t.skipsBlanks = false ∨ Text.isBlank c = false
    · have hkeep : t.keeps (l.1.itemAt offset) = true := by
        unfold Tokenizer.keeps
        rw [Bool.not_eq_true', Bool.and_eq_false_iff]
        refine h.imp id fun hc => ?_
        rw [Bool.eq_false_iff, ne_eq, Lexeme.isWhitespace_itemAt]
        exact Lexeme.kind_first_of_not_isBlank hc r
      rw [if_pos hkeep]
      refine .item (by rw [next_lexeme offset h]) ?_
      rw [next_lexeme offset h]
      exact ih _
    · simp only [not_or, Bool.not_eq_false] at h
      have hdrop : t.keeps (l.1.itemAt offset) = false := by
        have hw : (l.1.itemAt offset).isWhitespace = true := by
          rw [Lexeme.isWhitespace_itemAt]
          simp only [l, Lexeme.first_blank r h.2]
        simp [Tokenizer.keeps, h.1, hw]
      rw [if_neg (by simp [hdrop])]
      exact (ih _).of_next_eq (next_blank offset h.1 h.2 r)

/-- A scan of a source gives the items of the source and ends. -/
theorem yields_items (t : Tokenizer) (source : String) : (t.scan source).Yields (t.items source) :=
  yields_place t 0 source.toList

theorem yields_iff (t : Tokenizer) (source : String) (items : List Item) :
    (t.scan source).Yields items ↔ items = t.items source := by
  constructor
  · intro h
    exact h.unique (yields_items t source)
  · rintro rfl
    exact yields_items t source

end Scan

end StackLisp
