/-
The written forms of literals. An integer is written as a text of the integer rule and a string
without line feeds as one of the string rule, and reading such a text gives the literal back. No
string with a line feed can be read, and the others only from their written forms.

Main statement: reading and writing undo each other, for integers and for strings without line feeds.
-/
import StackLisp.Proofs.Token.Decoding
import StackLisp.Proofs.Token.Rules

open scoped Computability

namespace StackLisp.Literal

/-! ## Integers -/

theorem isNumeral_iff_mem_rule {w : List Char} :
    isNumeral w = true ↔ w ∈ Token.Kind.integer.rule := by
  rw [Token.Kind.rule, Language.mem_add, Text.mem_oneOf_mul]
  constructor
  · intro h
    cases w with
    | nil => cases h
    | cons c r =>
      simp only [isNumeral, Bool.and_eq_true, Bool.or_eq_true, List.all_eq_true, bne_iff_ne,
        List.isEmpty_iff] at h
      obtain ⟨⟨hc, hr⟩, h0⟩ := h
      by_cases hz : c = '0'
      · obtain rfl := h0.resolve_left (not_not_intro hz)
        exact .inl (by rw [hz]; rfl)
      · exact .inr ⟨c, r, rfl, by simp [hc, hz], Text.mem_kstar_oneOf.2 hr⟩
  · rintro (rfl | ⟨c, r, rfl, hc, hr⟩)
    · rfl
    · rw [Bool.and_eq_true, bne_iff_ne] at hc
      simpa [isNumeral, hc.1, hc.2] using Text.mem_kstar_oneOf.1 hr

/-- Digits of a number other than zero do not start with a zero. -/
theorem exists_toDigits {n : Nat} (hn : 0 < n) :
    ∃ c r, Nat.toDigits 10 n = c :: r ∧ c ≠ '0' := by
  induction n using Nat.strongRecOn with
  | ind n ih =>
    by_cases h : n < 10
    · refine ⟨n.digitChar, [], Nat.toDigits_of_lt_base h, fun hc => ?_⟩
      have hz := congrArg Char.toNat hc
      rw [Nat.toNat_digitChar_of_lt_ten h] at hz
      simp only [Char.reduceToNat] at hz
      omega
    · obtain ⟨c, r, hr, hc⟩ := ih (n / 10) (by omega) (by omega)
      refine ⟨c, r ++ [(n % 10).digitChar], ?_, hc⟩
      rw [Nat.toDigits_of_base_le (by decide) (by omega), hr, List.cons_append]

theorem isNumeral_toDigits (n : Nat) : isNumeral (Nat.toDigits 10 n) = true := by
  have hd : ∀ c ∈ Nat.toDigits 10 n, c.isDigit = true := fun c hc =>
    Nat.isDigit_of_mem_toDigits (by decide) (by decide) hc
  obtain rfl | hn := Nat.eq_zero_or_pos n
  · rfl
  · obtain ⟨c, r, hr, hc⟩ := exists_toDigits hn
    rw [hr, List.forall_mem_cons] at hd
    rw [hr]
    simp only [isNumeral, Bool.and_eq_true, Bool.or_eq_true, List.all_eq_true, bne_iff_ne]
    exact ⟨hd, .inl hc⟩

theorem repr_mem_rule (n : Nat) : n.repr.toList ∈ Token.Kind.integer.rule := by
  rw [Nat.repr_eq_ofList_toDigits, String.toList_ofList]
  exact isNumeral_iff_mem_rule.1 (isNumeral_toDigits n)

theorem integer_repr (n : Nat) : integer n.repr = .ok n := by
  rw [integer, Nat.repr_eq_ofList_toDigits, String.toList_ofList, if_pos (isNumeral_toDigits n),
    Nat.ofDigitChars_ten_toDigits]

theorem toNat_sub_lt_ten {d : Char} (h : d.isDigit = true) : d.toNat - '0'.toNat < 10 := by
  rw [Char.isDigit_iff_toNat] at h
  simp only [Char.reduceToNat] at h ⊢
  omega

theorem digitChar_toNat_sub {d : Char} (h : d.isDigit = true) :
    (d.toNat - '0'.toNat).digitChar = d := by
  have hlt := toNat_sub_lt_ten h
  rw [Char.isDigit_iff_toNat] at h
  apply Char.toNat_inj.1
  rw [Nat.toNat_digitChar_of_lt_ten hlt]
  simp only [Char.reduceToNat] at h ⊢
  omega

/-- A numeral of two digits or more does not start with a zero, and without its last digit it is a
numeral again. -/
theorem of_isNumeral_append {c d : Char} {r : List Char} (h : isNumeral (c :: r ++ [d]) = true) :
    isNumeral (c :: r) = true ∧ c ≠ '0' ∧ d.isDigit = true := by
  simp only [List.cons_append, isNumeral, List.all_append, List.all_cons, List.all_nil,
    Bool.and_eq_true, Bool.and_true, Bool.or_eq_true, bne_iff_ne, List.isEmpty_iff,
    List.append_eq_nil_iff, List.cons_ne_nil, and_false, or_false] at h ⊢
  obtain ⟨⟨hc, hr, hd⟩, h0⟩ := h
  exact ⟨⟨⟨hc, hr⟩, .inl h0⟩, h0, hd⟩

/-- A numeral is what its value is written as. -/
theorem toDigits_ofDigitChars {w : List Char} (h : isNumeral w = true) :
    Nat.toDigits 10 (Nat.ofDigitChars 10 w 0) = w := by
  induction w using List.reverseRecOn with
  | nil => cases h
  | append_singleton u d ih =>
    rw [Nat.ofDigitChars_append, Nat.ofDigitChars_cons, Nat.ofDigitChars_nil]
    cases u with
    | nil =>
      have hd : d.isDigit = true := by simpa [isNumeral] using h
      rw [Nat.ofDigitChars_nil, Nat.mul_zero, Nat.zero_add,
        Nat.toDigits_of_lt_base (toNat_sub_lt_ten hd), digitChar_toNat_sub hd]
      rfl
    | cons c r =>
      obtain ⟨hu, hc, hd⟩ := of_isNumeral_append h
      have hdigits := ih hu
      -- the digits before the last are not those of zero, so that none of them is left out
      have hpos : 0 < Nat.ofDigitChars 10 (c :: r) 0 := by
        apply Nat.pos_of_ne_zero
        intro hz
        rw [hz] at hdigits
        exact hc (List.cons.inj hdigits).1.symm
      have hlt := toNat_sub_lt_ten hd
      rw [← Nat.toDigits_append_toDigits (by decide) hpos hlt, hdigits,
        Nat.toDigits_of_lt_base hlt, digitChar_toNat_sub hd]

theorem repr_of_integer {raw : String} {n : Nat} (h : integer raw = .ok n) : n.repr = raw := by
  unfold integer at h
  split at h
  · rename_i hnum
    cases h
    rw [Nat.repr_eq_ofList_toDigits, toDigits_ofDigitChars hnum, String.ofList_toList]
  · cases h

/-! ## Strings -/

theorem isPlain_of_ne {c : Char} (hc : c ≠ '\n') (he : ¬ Lexeme.isEscapable c = true) :
    Lexeme.isPlain c = true := by
  simp only [Lexeme.isEscapable, Bool.or_eq_true, beq_iff_eq, not_or] at he
  simp [Lexeme.isPlain, hc, he]

theorem escapeBody_mem_kstar {cs : List Char} (h : '\n' ∉ cs) :
    escapeBody cs ∈ Lexeme.stringUnit∗ := by
  induction cs with
  | nil => exact Language.nil_mem_kstar _
  | cons c r ih =>
    rw [List.mem_cons, not_or] at h
    rw [escapeBody]
    split
    · rename_i hc
      exact Lexeme.append_mem_kstar_stringUnit (Lexeme.escaped_mem_stringUnit hc) (ih h.2)
    · rename_i hc
      exact Lexeme.append_mem_kstar_stringUnit
        (Lexeme.plain_mem_stringUnit (isPlain_of_ne (Ne.symm h.1) hc)) (ih h.2)

theorem unescapeBody_escapeBody {cs : List Char} (h : '\n' ∉ cs) :
    unescapeBody (escapeBody cs ++ ['"']) = some cs := by
  induction cs with
  | nil => rfl
  | cons c r ih =>
    rw [List.mem_cons, not_or] at h
    rw [escapeBody]
    split
    · rename_i hc
      rw [List.cons_append, List.cons_append, unescapeBody_escaped hc, ih h.2, Option.map_some]
    · rename_i hc
      rw [List.cons_append, unescapeBody_plain (isPlain_of_ne (Ne.symm h.1) hc), ih h.2,
        Option.map_some]

theorem escape_mem_rule {value : String} (h : '\n' ∉ value.toList) :
    (escape value).toList ∈ Token.Kind.string.rule := by
  rw [escape, String.toList_ofList]
  exact Language.mem_mul.2 ⟨_, Text.cons_mem_mul (escapeBody_mem_kstar h), ['"'], rfl, rfl⟩

theorem unescape_escape {value : String} (h : '\n' ∉ value.toList) :
    unescape (escape value) = .ok value := by
  rw [unescape, escape, String.toList_ofList]
  simp only [List.cons_append, unescapeBody_escapeBody h, String.ofList_toList]

theorem not_mem_of_unescapeBody {cs value : List Char} (h : unescapeBody cs = some value) :
    '\n' ∉ value := by
  fun_induction unescapeBody cs generalizing value with
  | case1 => cases h
  | case2 => cases h; exact List.not_mem_nil
  | case3 c r hc ih =>
    obtain ⟨tail, ht, rfl⟩ := Option.map_eq_some_iff.1 h
    rw [List.mem_cons, not_or]
    exact ⟨by rintro rfl; exact absurd hc (by decide), ih ht⟩
  | case4 => cases h
  | case5 c r hq he hc ih =>
    obtain ⟨tail, ht, rfl⟩ := Option.map_eq_some_iff.1 h
    rw [List.mem_cons, not_or]
    exact ⟨by rintro rfl; exact absurd hc (by decide), ih ht⟩
  | case6 => cases h

/-- A text that is the written form of some characters is what they are written as. -/
theorem eq_escapeBody_of_unescapeBody {cs value : List Char} (h : unescapeBody cs = some value) :
    cs = escapeBody value ++ ['"'] := by
  fun_induction unescapeBody cs generalizing value with
  | case1 => cases h
  | case2 => cases h; rfl
  | case3 c r hc ih =>
    obtain ⟨tail, ht, rfl⟩ := Option.map_eq_some_iff.1 h
    rw [escapeBody, if_pos hc, List.cons_append, List.cons_append, ← ih ht]
  | case4 => cases h
  | case5 c r hq he hc ih =>
    obtain ⟨tail, ht, rfl⟩ := Option.map_eq_some_iff.1 h
    have hne : ¬ Lexeme.isEscapable c = true := by
      simp only [Lexeme.isPlain, Bool.and_eq_true, bne_iff_ne] at hc
      simp [Lexeme.isEscapable, hc]
    rw [escapeBody, if_neg hne, List.cons_append, ← ih ht]
  | case6 => cases h

theorem exists_of_unescape {raw value : String} (h : unescape raw = .ok value) :
    ∃ body, raw.toList = '"' :: body ∧ unescapeBody body = some value.toList := by
  unfold unescape at h
  split at h
  · rename_i body hraw
    split at h
    · rename_i hv
      cases h
      exact ⟨body, hraw, by rw [hv, String.toList_ofList]⟩
    · cases h
  · cases h

theorem not_mem_of_unescape {raw value : String} (h : unescape raw = .ok value) :
    '\n' ∉ value.toList := by
  obtain ⟨_, -, hv⟩ := exists_of_unescape h
  exact not_mem_of_unescapeBody hv

/-- A string has one written form only. -/
theorem escape_of_unescape {raw value : String} (h : unescape raw = .ok value) :
    escape value = raw := by
  obtain ⟨body, hraw, hv⟩ := exists_of_unescape h
  rw [escape, List.cons_append, ← eq_escapeBody_of_unescapeBody hv, ← hraw, String.ofList_toList]

theorem unescapeBody_newline (r : List Char) : unescapeBody ('\n' :: r) = none := by
  rw [unescapeBody]
  · rfl
  · intro hc _; exact absurd hc (by decide)
  · intro _ _ hc _; exact absurd hc (by decide)

/-- A line feed is written as it is, and no written form goes on over one. -/
theorem unescapeBody_escapeBody_of_mem {cs : List Char} (h : '\n' ∈ cs) :
    unescapeBody (escapeBody cs ++ ['"']) = none := by
  induction cs with
  | nil => cases h
  | cons c r ih =>
    rw [escapeBody]
    by_cases hn : c = '\n'
    · rw [hn, if_neg (by decide), List.cons_append, unescapeBody_newline]
    · have hr : '\n' ∈ r := (List.mem_cons.1 h).resolve_left (Ne.symm hn)
      split
      · rename_i hc
        rw [List.cons_append, List.cons_append, unescapeBody_escaped hc, ih hr, Option.map_none]
      · rename_i hc
        rw [List.cons_append, unescapeBody_plain (isPlain_of_ne hn hc), ih hr, Option.map_none]

theorem unescape_escape_of_mem {value : String} (h : '\n' ∈ value.toList) :
    unescape (escape value) = .error .malformedString := by
  rw [unescape, escape, String.toList_ofList]
  simp only [List.cons_append, unescapeBody_escapeBody_of_mem h]

/-! ## Both ways -/

/-- The written form of a literal is read as that literal, unless it is that of a string with a line
feed, which is refused. A text that is read as a literal is the written form of that literal. -/
theorem reading_inverts_writing :
    (∀ value, unescape (escape value) =
      if '\n' ∈ value.toList then .error .malformedString else .ok value) ∧
    (∀ raw value, unescape raw = .ok value → escape value = raw) ∧
    (∀ n : Nat, integer n.repr = .ok n) ∧
    ∀ raw n, integer raw = .ok n → n.repr = raw := by
  refine ⟨fun value => ?_, fun raw value => escape_of_unescape, integer_repr,
    fun raw n => repr_of_integer⟩
  split
  · rename_i h
    exact unescape_escape_of_mem h
  · rename_i h
    exact unescape_escape h

end StackLisp.Literal
