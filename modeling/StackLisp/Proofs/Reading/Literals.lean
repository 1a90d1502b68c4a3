/-
Literals, as scanning labels them and as they are decoded. What the text of a literal is, is said
twice: by the rules that cut a source into tokens, and by the decoders, which look at one text alone.
Both say the same. A text can be decoded if and only if scanning it gives one token of the literal's
kind that covers the text.

So every literal in a source can be decoded, and no source is refused for a malformed one.
-/
import StackLisp.Proofs.Reading.Joining

namespace StackLisp

/-! ## Texts that are one token -/

namespace Tokenizer

/-- Scanning the text gives a single item, a token of the kind that covers the whole text. -/
def Labels (t : Tokenizer) (raw : String) (kind : Token.Kind) : Prop :=
  ∃ tok, t.items raw = [.token tok] ∧ tok.kind = kind ∧ tok.span = ⟨0, raw.utf8ByteSize⟩

theorem Labels.exists_token {t : Tokenizer} {raw : String} {kind : Token.Kind}
    (h : t.Labels raw kind) :
    ∃ tok, .token tok ∈ t.items raw ∧ tok.kind = kind ∧ tok.text = raw := by
  obtain ⟨tok, hitems, hkind, hspan⟩ := h
  have hmem : .token tok ∈ t.items raw := by
    rw [hitems]
    exact List.mem_singleton_self _
  refine ⟨tok, hmem, hkind, ?_⟩
  rw [text_eq_slice hmem, hspan, Span.slice_whole]

/-- A text of a rule other than that of blanks is one token, whether blanks are skipped or not. -/
theorem labels_of_mem_rule (t : Tokenizer) {raw : String} {kind : Token.Kind}
    (hk : kind ≠ .whitespace) (h : raw.toList ∈ kind.rule) : t.Labels raw kind := by
  have hl : Lexeme.ofText raw.toList = [⟨some kind, raw.toList⟩] := by
    have hl := Lexeme.ofText_append_of_mem_rule hk h Lexeme.breaks_nil
    rwa [List.append_nil, Lexeme.ofText] at hl
  have hkeep : t.keeps ((⟨some kind, raw.toList⟩ : Lexeme).itemAt 0) = true := by
    simp [keeps, Lexeme.itemAt, Item.isWhitespace, hk]
  refine ⟨⟨kind, raw, ⟨0, raw.utf8ByteSize⟩⟩, ?_, rfl, rfl⟩
  rw [items, hl, Lexeme.place, Lexeme.place, List.filter_cons_of_pos hkeep, List.filter_nil,
    Lexeme.itemAt]
  simp only [Text.byteSize_eq_utf8ByteSize, String.ofList_toList, Nat.zero_add]

end Tokenizer

/-! ## Texts that can be decoded -/

namespace Literal

theorem exists_unescape_iff_labels (t : Tokenizer) (raw : String) :
    (∃ value, unescape raw = .ok value) ↔ t.Labels raw .string := by
  constructor
  · rintro ⟨value, h⟩
    -- what is decoded is the written form of its value, and that is a text of the rule
    have hrule := escape_mem_rule (not_mem_of_unescape h)
    rw [escape_of_unescape h] at hrule
    exact t.labels_of_mem_rule (by decide) hrule
  · intro h
    obtain ⟨tok, hmem, hkind, rfl⟩ := h.exists_token
    exact Tokenizer.exists_string_of_mem_items hmem hkind

theorem exists_integer_iff_labels (t : Tokenizer) (raw : String) :
    (∃ n, integer raw = .ok n) ↔ t.Labels raw .integer := by
  constructor
  · rintro ⟨n, h⟩
    have hnum : isNumeral raw.toList = true := by
      unfold integer at h
      split at h
      · assumption
      · cases h
    exact t.labels_of_mem_rule (by decide) (isNumeral_iff_mem_rule.1 hnum)
  · intro h
    obtain ⟨tok, hmem, hkind, rfl⟩ := h.exists_token
    exact Tokenizer.exists_integer_of_mem_items hmem hkind

end Literal

/-- The decoders take exactly the texts that scanning labels as literals: the whole text has to be
one string token, or one integer token. All string and integer tokens of a source can be decoded, and
reading it never ends in a malformed literal. -/
theorem Literal.decodes_iff_labels (t : Tokenizer) :
    (∀ raw, ((∃ value, unescape raw = .ok value) ↔ t.Labels raw .string) ∧
      ((∃ n, integer raw = .ok n) ↔ t.Labels raw .integer)) ∧
    (∀ source tok, .token tok ∈ t.items source →
      (tok.kind = .string → ∃ value, unescape tok.text = .ok value) ∧
      (tok.kind = .integer → ∃ n, integer tok.text = .ok n)) ∧
    ∀ limit source e, (⟨t, limit⟩ : Reader).parse source = .error (.lex e) →
      e.fault ≠ .malformedString ∧ e.fault ≠ .malformedInteger := by
  refine ⟨fun raw => ?_, fun source tok hmem => ?_, fun limit source e h => ?_⟩
  · exact ⟨exists_unescape_iff_labels t raw, exists_integer_iff_labels t raw⟩
  · exact ⟨Tokenizer.exists_string_of_mem_items hmem, Tokenizer.exists_integer_of_mem_items hmem⟩
  · rw [Reader.fault_of_parse h]
    decide

-- a backslash before the last quote escapes it, so that the text has no end
example : Literal.unescape "\"a\\\"" = .error .malformedString ∧
    ({} : Tokenizer).items "\"a\\\"" = [.error ⟨.unrecognized, ⟨0, 4⟩⟩] := by
  constructor <;> cbv

end StackLisp
