/-
The first lexeme of a text, by its first character. Blanks, parentheses, digits, the characters that
start atoms and the quote are told apart by their code points, so that each of them has an equation
of its own, whatever the order in which they are tried.
-/
import StackLisp.Token.Stream

namespace StackLisp.Lexeme

/-! ## Characters -/

theorem toNat_of_isAlpha {c : Char} (h : c.isAlpha = true) :
    (65 ≤ c.toNat ∧ c.toNat ≤ 90) ∨ (97 ≤ c.toNat ∧ c.toNat ≤ 122) := by
  obtain h | h : c.isUpper = true ∨ c.isLower = true := Bool.or_eq_true_iff.1 h
  · exact .inl (of_decide_eq_true h)
  · obtain ⟨hl, hu⟩ := Bool.and_eq_true_iff.1 h
    exact .inr ⟨of_decide_eq_true hl, of_decide_eq_true hu⟩

/-- The characters that start atoms lie between `*` and `z`, and none of them is a digit. -/
theorem toNat_of_isAtomStart {c : Char} (h : isAtomStart c = true) :
    42 ≤ c.toNat ∧ c.toNat ≤ 122 ∧ c.isDigit = false := by
  simp only [isAtomStart, Bool.or_eq_true, beq_iff_eq] at h
  rcases h with ((((h | rfl) | rfl) | rfl) | rfl) | rfl
  · have hc := toNat_of_isAlpha h
    rw [Bool.eq_false_iff, ne_eq, Char.isDigit_iff_toNat]
    simp only [Char.reduceToNat]
    omega
  all_goals decide

theorem toNat_of_isAtomChar {c : Char} (h : isAtomChar c = true) :
    42 ≤ c.toNat ∧ c.toNat ≤ 122 := by
  simp only [isAtomChar, Bool.or_eq_true, beq_iff_eq] at h
  rcases h with (h | h) | rfl
  · obtain ⟨hl, hu, -⟩ := toNat_of_isAtomStart h
    exact ⟨hl, hu⟩
  · rw [Char.isDigit_iff_toNat] at h
    simp only [Char.reduceToNat] at h
    omega
  · decide

theorem isAtomChar_of_isAtomStart {c : Char} (h : isAtomStart c = true) : isAtomChar c = true := by
  simp [isAtomChar, h]

theorem isAtomChar_of_isDigit {c : Char} (h : c.isDigit = true) : isAtomChar c = true := by
  simp [isAtomChar, h]

theorem isBlank_of_isAtomChar {c : Char} (h : isAtomChar c = true) : Text.isBlank c = false := by
  have hc := toNat_of_isAtomChar h
  rw [Bool.eq_false_iff]
  intro hb
  simp only [Text.isBlank, Text.inRanges, Text.blankRanges, List.any_cons, List.any_nil,
    Bool.or_eq_true, Bool.and_eq_true, decide_eq_true_eq, Bool.false_eq_true, or_false] at hb
  omega

/-! ## One equation for each kind of first character -/

section Equations

variable {c : Char} (r : List Char)

theorem first_blank (h : Text.isBlank c = true) :
    first c r = (⟨some .whitespace, c :: r.takeWhile Text.isBlank⟩, r.dropWhile Text.isBlank) := by
  rw [first, if_pos h]

theorem first_lparen : first '(' r = (⟨some .lparen, ['(']⟩, r) := rfl

theorem first_rparen : first ')' r = (⟨some .rparen, [')']⟩, r) := rfl

theorem first_zero : first '0' r = (⟨some .integer, ['0']⟩, r) := rfl

theorem first_digit (h : c.isDigit = true) (h0 : c ≠ '0') :
    first c r = (⟨some .integer, c :: r.takeWhile Char.isDigit⟩, r.dropWhile Char.isDigit) := by
  have hb := isBlank_of_isAtomChar (isAtomChar_of_isDigit h)
  have hl : c ≠ '(' := by rintro rfl; exact absurd h (by decide)
  have hr : c ≠ ')' := by rintro rfl; exact absurd h (by decide)
  rw [first, if_neg (by simp [hb]), if_neg hl, if_neg hr, if_neg h0, if_pos h]

theorem first_atomStart (h : isAtomStart c = true) :
    first c r = (⟨some .atom, c :: r.takeWhile isAtomChar⟩, r.dropWhile isAtomChar) := by
  have hb := isBlank_of_isAtomChar (isAtomChar_of_isAtomStart h)
  have hl : c ≠ '(' := by rintro rfl; exact absurd h (by decide)
  have hr : c ≠ ')' := by rintro rfl; exact absurd h (by decide)
  have h0 : c ≠ '0' := by rintro rfl; exact absurd h (by decide)
  obtain ⟨-, -, hd⟩ := toNat_of_isAtomStart h
  rw [first, if_neg (by simp [hb]), if_neg hl, if_neg hr, if_neg h0, if_neg (by simp [hd]),
    if_pos h]

theorem first_quote : first '"' r = ofUnits (stringUnits r) := rfl

end Equations

theorem ofText_of_first {c : Char} {r rest : List Char} {l : Lexeme} (h : first c r = (l, rest)) :
    ofText (c :: r) = l :: ofText rest := by
  rw [ofText, h]

/-- What a character is at the front of a text. -/
inductive Start : Char → Prop
  | blank {c : Char} : Text.isBlank c = true → Start c
  | lparen : Start '('
  | rparen : Start ')'
  | zero : Start '0'
  | digit {c : Char} : c.isDigit = true → c ≠ '0' → Start c
  | atom {c : Char} : isAtomStart c = true → Start c
  | quote : Start '"'
  | stray {c : Char} : c ≠ '"' → (∀ r, first c r = (⟨none, [c]⟩, r)) → Start c

theorem start (c : Char) : Start c := by
  by_cases hb : Text.isBlank c = true
  · exact .blank hb
  by_cases hl : c = '('
  · rw [hl]; exact .lparen
  by_cases hr : c = ')'
  · rw [hr]; exact .rparen
  by_cases h0 : c = '0'
  · rw [h0]; exact .zero
  by_cases hd : c.isDigit = true
  · exact .digit hd h0
  by_cases ha : isAtomStart c = true
  · exact .atom ha
  by_cases hq : c = '"'
  · rw [hq]; exact .quote
  refine .stray hq fun r => ?_
  rw [first, if_neg hb, if_neg hl, if_neg hr, if_neg h0, if_neg hd, if_neg ha, if_neg hq]

/-! ## String units -/

section Units

variable {c : Char} (r : List Char)

theorem stringUnits_escaped (h : isEscapable c = true) :
    stringUnits ('\\' :: c :: r) = ('\\' :: c :: (stringUnits r).1, (stringUnits r).2) := by
  rw [stringUnits, if_pos h]

theorem stringUnits_plain (h : isPlain c = true) :
    stringUnits (c :: r) = (c :: (stringUnits r).1, (stringUnits r).2) := by
  have hc : c ≠ '\\' := by rintro rfl; exact absurd h (by decide)
  rw [stringUnits, if_pos h]
  intro _ _ hc' _
  exact hc hc'

theorem stringUnits_quote : stringUnits ('"' :: r) = ([], '"' :: r) := by
  cases r <;> rfl

end Units

end StackLisp.Lexeme
