/-
The literals of a source can be decoded: the text of every integer token is a numeral, and the text
of every string token is the written form of a string. So the only lexical error that a source gives
rise to is text that no rule matches.
-/
import StackLisp.Token.Literal
import StackLisp.Token.Stream

namespace StackLisp

/-! ## String units -/

namespace Literal

theorem unescapeBody_escaped {c : Char} (h : Lexeme.isEscapable c = true) (r : List Char) :
    unescapeBody ('\\' :: c :: r) = (unescapeBody r).map (c :: ·) := by
  rw [unescapeBody, if_pos h]

theorem unescapeBody_plain {c : Char} (h : Lexeme.isPlain c = true) (r : List Char) :
    unescapeBody (c :: r) = (unescapeBody r).map (c :: ·) := by
  simp only [Lexeme.isPlain, Bool.and_eq_true, bne_iff_ne] at h
  rw [unescapeBody]
  · simp [Lexeme.isPlain, h]
  · intro hc _; exact h.1.2 hc
  · intro _ _ hc _; exact h.2 hc

/-- String units with a quote after them are the written form of some characters. -/
theorem exists_unescapeBody_units (cs : List Char) :
    ∃ value, unescapeBody ((Lexeme.stringUnits cs).1 ++ ['"']) = some value := by
  fun_induction Lexeme.stringUnits cs with
  | case1 c r hc units ih =>
    obtain ⟨value, hv⟩ := ih
    exact ⟨c :: value, by rw [List.cons_append, List.cons_append, unescapeBody_escaped hc, hv]; rfl⟩
  | case2 c r hc => exact ⟨[], rfl⟩
  | case3 c r hr hc units ih =>
    obtain ⟨value, hv⟩ := ih
    exact ⟨c :: value, by rw [List.cons_append, unescapeBody_plain hc, hv]; rfl⟩
  | case4 c r hr hc => exact ⟨[], rfl⟩
  | case5 => exact ⟨[], rfl⟩

end Literal

/-! ## Lexemes -/

namespace Lexeme

theorem forall_mem_ofText {P : Lexeme → Prop} (h : ∀ c r, P (first c r).1) (cs : List Char) :
    ∀ l ∈ ofText cs, P l := by
  fun_induction ofText cs with
  | case1 => exact List.forall_mem_nil P
  | case2 c r l ih =>
    intro l' hl'
    rcases List.mem_cons.1 hl' with rfl | hl'
    · exact h c r
    · exact ih l' hl'

/-- A lexeme that is called a literal is the text of one. -/
structure IsDecodable (l : Lexeme) : Prop where
  integer : l.kind? = some .integer → Literal.isNumeral l.text = true
  string : l.kind? = some .string → ∃ value, Literal.unescape (String.ofList l.text) = .ok value

theorem isDecodable_mk {kind? : Option Token.Kind} (hi : kind? ≠ some .integer)
    (hs : kind? ≠ some .string) (text : List Char) : IsDecodable ⟨kind?, text⟩ :=
  ⟨fun h => absurd h hi, fun h => absurd h hs⟩

theorem isDecodable_ofUnits (cs : List Char) : (ofUnits (stringUnits cs)).1.IsDecodable := by
  unfold ofUnits
  split
  · obtain ⟨value, hv⟩ := Literal.exists_unescapeBody_units cs
    refine ⟨fun h => (by cases h), fun _ => ⟨String.ofList value, ?_⟩⟩
    unfold Literal.unescape
    rw [String.toList_ofList]
    simp only [List.cons_append, hv]
  · exact isDecodable_mk (by decide) (by decide) _

theorem isDecodable_first (c : Char) (r : List Char) : (first c r).1.IsDecodable := by
  unfold first
  split
  · exact isDecodable_mk (by decide) (by decide) _
  split
  · exact isDecodable_mk (by decide) (by decide) _
  split
  · exact isDecodable_mk (by decide) (by decide) _
  -- a lone zero, and a numeral that starts with another digit
  split
  · rename_i hc
    exact ⟨fun _ => by rw [hc]; rfl, fun h => (by cases h)⟩
  split
  · rename_i h0 hc
    refine ⟨fun _ => ?_, fun h => (by cases h)⟩
    simp [Literal.isNumeral, hc, h0, List.all_takeWhile]
  split
  · exact isDecodable_mk (by decide) (by decide) _
  split
  · exact isDecodable_ofUnits r
  · exact isDecodable_mk (by decide) (by decide) _

/-- An item is a lexeme that stands behind the texts of those before it. -/
theorem mem_place {i : Item} {ls : List Lexeme} : ∀ {start : Nat}, i ∈ place start ls →
    ∃ before l after, ls = before ++ l :: after ∧
      i = l.itemAt (start + Text.byteSize (before.flatMap text)) := by
  induction ls with
  | nil => intro start h; cases h
  | cons l ls ih =>
    intro start h
    rcases List.mem_cons.1 h with rfl | h
    · exact ⟨[], l, ls, rfl, rfl⟩
    · obtain ⟨before, l', after, rfl, rfl⟩ := ih h
      refine ⟨l :: before, l', after, rfl, ?_⟩
      rw [List.flatMap_cons, Text.byteSize_append, Nat.add_assoc]

/-- The lexemes of a text are the text. -/
theorem flatMap_text_ofText (cs : List Char) : (ofText cs).flatMap text = cs := by
  fun_induction ofText cs with
  | case1 => rfl
  | case2 c r l ih => rw [List.flatMap_cons, ih, first_append]

theorem of_token_eq_itemAt {l : Lexeme} {t : Token} {offset : Nat}
    (h : .token t = l.itemAt offset) : l.kind? = some t.kind ∧ t.text = String.ofList l.text := by
  unfold itemAt at h
  split at h
  · rename_i kind hk
    cases h
    exact ⟨hk, rfl⟩
  · cases h

end Lexeme

/-! ## Items -/

namespace Tokenizer

/-- An item of a source is one of its lexemes, at the place where the text before it ends. -/
theorem exists_lexeme_of_mem_items {t : Tokenizer} {source : String} {i : Item}
    (h : i ∈ t.items source) : ∃ pre l post, l ∈ Lexeme.ofText source.toList ∧
      source.toList = pre ++ (l.text ++ post) ∧ i = l.itemAt (Text.byteSize pre) := by
  unfold items at h
  obtain ⟨before, l, after, hls, hi⟩ := Lexeme.mem_place (List.mem_filter.1 h).1
  rw [Nat.zero_add] at hi
  refine ⟨before.flatMap Lexeme.text, l, after.flatMap Lexeme.text, ?_, ?_, hi⟩
  · rw [hls]
    exact List.mem_append_right _ (List.mem_cons_self ..)
  · rw [← List.flatMap_cons, ← List.flatMap_append, ← hls, Lexeme.flatMap_text_ofText]

theorem exists_integer_of_mem_items {t : Tokenizer} {source : String} {tok : Token}
    (h : .token tok ∈ t.items source) (hk : tok.kind = .integer) :
    ∃ n, Literal.integer tok.text = .ok n := by
  obtain ⟨_, l, _, hl, -, hi⟩ := exists_lexeme_of_mem_items h
  obtain ⟨hkind, htext⟩ := Lexeme.of_token_eq_itemAt hi
  have hdec := Lexeme.forall_mem_ofText Lexeme.isDecodable_first _ l hl
  rw [hk] at hkind
  unfold Literal.integer
  rw [htext, String.toList_ofList, if_pos (hdec.integer hkind)]
  exact ⟨_, rfl⟩

theorem exists_string_of_mem_items {t : Tokenizer} {source : String} {tok : Token}
    (h : .token tok ∈ t.items source) (hk : tok.kind = .string) :
    ∃ value, Literal.unescape tok.text = .ok value := by
  obtain ⟨_, l, _, hl, -, hi⟩ := exists_lexeme_of_mem_items h
  obtain ⟨hkind, htext⟩ := Lexeme.of_token_eq_itemAt hi
  have hdec := Lexeme.forall_mem_ofText Lexeme.isDecodable_first _ l hl
  rw [hk] at hkind
  rw [htext]
  exact hdec.string hkind

/-- The errors of a source are stray text and nothing else. -/
theorem fault_of_mem_items {t : Tokenizer} {source : String} {e : LexError}
    (h : .error e ∈ t.items source) : e.fault = .unrecognized := by
  obtain ⟨_, l, _, -, -, hi⟩ := exists_lexeme_of_mem_items h
  unfold Lexeme.itemAt at hi
  split at hi
  · cases hi
  · cases hi; rfl

end Tokenizer

end StackLisp
