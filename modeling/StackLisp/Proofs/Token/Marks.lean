/-
The marks of a text: its parentheses and its stray parts, in order. If a text without stray parts is put
behind a token, the token may swallow the beginning of it: a blank run goes on, a numeral takes the
digits that follow, and an atom takes whole numerals and atoms. What is swallowed holds no mark and
ends where a token ends, so that the marks of the text are still there.
-/
import StackLisp.Proofs.Token.Decoding
import StackLisp.Proofs.Token.Rules

namespace StackLisp

/-- What shows in the nesting of a text: a parenthesis, or text that no rule matches. -/
inductive Mark
  | opening | closing | stray
deriving DecidableEq, Repr

/-- The marks that text of a kind leaves; stray text has no kind. -/
def Mark.ofKind : Option Token.Kind → List Mark
  | some .lparen => [.opening]
  | some .rparen => [.closing]
  | none => [.stray]
  | some .whitespace | some .integer | some .string | some .atom => []

namespace Lexeme

def marks (l : Lexeme) : List Mark := Mark.ofKind l.kind?

theorem kind_of_not_mem_marks {l : Lexeme} (h : .stray ∉ l.marks) : ∃ k, l.kind? = some k := by
  cases hk : l.kind? with
  | none => rw [marks, hk] at h; exact absurd (List.mem_singleton_self _) h
  | some k => exact ⟨k, rfl⟩

/-! ## What a token swallows -/

/-- Where a class of characters goes on, some token goes on with it that is no parenthesis. -/
def Swallows (p : Char → Bool) : Prop :=
  ∀ c r, p c = true → (first c r).1.kind? ≠ none →
    (first c r).1.marks = [] ∧ ∀ d ∈ (first c r).1.text, p d = true

theorem swallows_isBlank : Swallows Text.isBlank := by
  intro c r hc _
  rw [first_blank r hc]
  refine ⟨rfl, List.forall_mem_cons.2 ⟨hc, ?_⟩⟩
  exact List.all_eq_true.1 List.all_takeWhile

theorem swallows_isDigit : Swallows Char.isDigit := by
  intro c r hc _
  by_cases h0 : c = '0'
  · subst h0
    rw [first_zero]
    exact ⟨rfl, by simp [hc]⟩
  · rw [first_digit r hc h0]
    refine ⟨rfl, List.forall_mem_cons.2 ⟨hc, ?_⟩⟩
    exact List.all_eq_true.1 List.all_takeWhile

/-- Of the characters in atoms only the question mark starts no token, and then it is stray. -/
theorem swallows_isAtomChar : Swallows isAtomChar := by
  intro c r hc hk
  simp only [isAtomChar, Bool.or_eq_true, beq_iff_eq] at hc
  rcases hc with (hs | hd) | rfl
  · rw [first_atomStart r hs]
    refine ⟨rfl, List.forall_mem_cons.2 ⟨isAtomChar_of_isAtomStart hs, ?_⟩⟩
    exact List.all_eq_true.1 List.all_takeWhile
  · obtain ⟨hm, hall⟩ := swallows_isDigit c r hd hk
    exact ⟨hm, fun d hd => isAtomChar_of_isDigit (hall d hd)⟩
  · exact absurd rfl hk

end Lexeme

/-! ## The marks of a text -/

namespace Text

open Lexeme

def marks (cs : List Char) : List Mark := (ofText cs).flatMap Lexeme.marks

theorem marks_nil : marks [] = [] := by
  rw [marks, ofText]
  rfl

theorem marks_of_first {c : Char} {r rest : List Char} {l : Lexeme} (h : first c r = (l, rest)) :
    marks (c :: r) = l.marks ++ marks rest := by
  rw [marks, ofText_of_first h, List.flatMap_cons]
  rfl

/-- What is swallowed of a text without stray parts holds no mark. -/
theorem marks_dropWhile {p : Char → Bool} (hp : Swallows p) (cs : List Char)
    (h : .stray ∉ marks cs) : marks (cs.dropWhile p) = marks cs := by
  induction hn : cs.length using Nat.strongRecOn generalizing cs with
  | ind n ih =>
    subst hn
    cases cs with
    | nil => rfl
    | cons c r =>
      by_cases hc : p c = true
      · have hfirst : marks (c :: r) = (first c r).1.marks ++ marks (first c r).2 := marks_of_first rfl
        rw [hfirst, List.mem_append, not_or] at h
        obtain ⟨k, hk⟩ := kind_of_not_mem_marks h.1
        obtain ⟨hmarks, htext⟩ := hp c r hc (by simp [hk])
        rw [hfirst, hmarks, List.nil_append]
        -- the token is passed over as a whole, and the tokens after it in turn
        rw [← first_append c r, List.dropWhile_append_of_pos htext]
        exact ih _ (length_first_lt c r) _ h.2 rfl
      · rw [List.dropWhile_cons_of_neg hc]

/-- A token in front of a text without stray parts adds its own mark and takes none away. -/
theorem marks_append {k : Token.Kind} {w : List Char} (hw : w ∈ k.rule) {t : List Char}
    (ht : .stray ∉ marks t) : marks (w ++ t) = Mark.ofKind (some k) ++ marks t := by
  cases k with
  | whitespace =>
    obtain ⟨c, r, rfl, hc, hr⟩ := mem_oneOf_mul.1 hw
    rw [List.cons_append, marks_of_first (first_blank _ hc),
      List.dropWhile_append_of_pos (mem_kstar_oneOf.1 hr), marks_dropWhile swallows_isBlank t ht]
    rfl
  | lparen =>
    obtain rfl := hw
    exact marks_of_first (first_lparen t)
  | rparen =>
    obtain rfl := hw
    exact marks_of_first (first_rparen t)
  | integer =>
    obtain rfl | hw := hw
    · exact marks_of_first (first_zero t)
    · obtain ⟨c, r, rfl, hc, hr⟩ := mem_oneOf_mul.1 hw
      rw [Bool.and_eq_true, bne_iff_ne] at hc
      rw [List.cons_append, marks_of_first (first_digit _ hc.1 hc.2),
        List.dropWhile_append_of_pos (mem_kstar_oneOf.1 hr), marks_dropWhile swallows_isDigit t ht]
      rfl
  | string =>
    -- a string ends at its quote, whatever follows
    obtain ⟨_, ⟨_, rfl, u, hu, rfl⟩, _, rfl, rfl⟩ := hw
    have hf := (first_quote (u ++ '"' :: t)).trans (ofUnits_stringUnits hu t)
    simpa [Lexeme.marks] using marks_of_first hf
  | atom =>
    obtain ⟨c, r, rfl, hc, hr⟩ := mem_oneOf_mul.1 hw
    rw [List.cons_append, marks_of_first (first_atomStart _ hc),
      List.dropWhile_append_of_pos (mem_kstar_oneOf.1 hr), marks_dropWhile swallows_isAtomChar t ht]
    rfl

/-- Lexemes of a text without stray parts keep their marks in whatever order and number they are put
together. -/
theorem marks_flatMap {cs : List Char} (hclean : .stray ∉ marks cs) {ls : List Lexeme}
    (hls : ls ⊆ ofText cs) : marks (ls.flatMap text) = ls.flatMap Lexeme.marks := by
  have hmarks : ∀ l ∈ ofText cs, .stray ∉ l.marks :=
    fun l hl hm => hclean (List.mem_flatMap.2 ⟨l, hl, hm⟩)
  have hrule : ∀ l ∈ ofText cs, ∀ k, l.kind? = some k → l.text ∈ k.rule :=
    forall_mem_ofText (fun _ _ _ => text_first_mem_rule) cs
  induction ls with
  | nil => exact marks_nil
  | cons l ls ih =>
    obtain ⟨hl, hls⟩ := List.cons_subset.1 hls
    obtain ⟨k, hk⟩ := kind_of_not_mem_marks (hmarks l hl)
    have hstray : .stray ∉ marks (ls.flatMap text) := by
      rw [ih hls, List.mem_flatMap]
      rintro ⟨l', hl', hm⟩
      exact hmarks l' (hls hl') hm
    rw [List.flatMap_cons, marks_append (hrule l hl k hk) hstray, ih hls, List.flatMap_cons,
      Lexeme.marks, hk]

end Text

end StackLisp
