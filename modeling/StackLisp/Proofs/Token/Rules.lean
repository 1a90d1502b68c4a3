/-
The rules of tokens, and maximal munch. Each kind of token has a rule, which is the language of the
texts that tokens of this kind may have. The rules cut a source from the left: a token is the longest
text at its place that its rule matches, and there no other rule matches anything. Stray text stands
only where no rule matches; it is one character, or a quote with the longest run of string units
after it.

Main statement: these conditions determine the items of a source, and scanning gives exactly them.
-/
import Mathlib.Computability.Language
import StackLisp.Proofs.Token.First

open scoped Computability

namespace StackLisp

/-! ## Languages of texts -/

namespace Text

/-- The texts of a single character of a class. -/
def oneOf (p : Char → Bool) : Language Char := {w | ∃ c, p c = true ∧ w = [c]}

theorem mem_oneOf_mul {p : Char → Bool} {l : Language Char} {w : List Char} :
    w ∈ oneOf p * l ↔ ∃ c r, w = c :: r ∧ p c = true ∧ r ∈ l := by
  rw [Language.mem_mul]
  constructor
  · rintro ⟨_, ⟨c, hc, rfl⟩, r, hr, rfl⟩
    exact ⟨c, r, rfl, hc, hr⟩
  · rintro ⟨c, r, rfl, hc, hr⟩
    exact ⟨[c], ⟨c, hc, rfl⟩, r, hr, rfl⟩

theorem cons_mem_mul {c : Char} {l : Language Char} {w : List Char} (hw : w ∈ l) :
    c :: w ∈ {[c]} * l :=
  Language.mem_mul.2 ⟨[c], rfl, w, hw, rfl⟩

theorem mem_kstar_oneOf {p : Char → Bool} {w : List Char} :
    w ∈ (oneOf p)∗ ↔ ∀ c ∈ w, p c = true := by
  induction w with
  | nil => simp [Language.nil_mem_kstar]
  | cons c r ih =>
    rw [← Language.one_add_self_mul_kstar_eq_kstar, Language.mem_add, Language.mem_one,
      mem_oneOf_mul, List.forall_mem_cons, ← ih]
    simp

end Text

/-! ## The rules -/

/-- A plain character, or a backslash with the character that it escapes. -/
def Lexeme.stringUnit : Language Char :=
  Text.oneOf isPlain + {['\\']} * Text.oneOf isEscapable

/-- The texts of the tokens of a kind. -/
def Token.Kind.rule : Token.Kind → Language Char
  | .whitespace => Text.oneOf Text.isBlank * (Text.oneOf Text.isBlank)∗
  | .lparen => {['(']}
  | .rparen => {[')']}
  | .integer => {['0']} + Text.oneOf (fun c => c.isDigit && c != '0') * (Text.oneOf Char.isDigit)∗
  | .string => {['"']} * Lexeme.stringUnit∗ * {['"']}
  | .atom => Text.oneOf Lexeme.isAtomStart * (Text.oneOf Lexeme.isAtomChar)∗

/-- The rule of a kind takes `text` from the front of `text ++ rest`. -/
structure Token.Kind.Munches (k : Token.Kind) (text rest : List Char) : Prop where
  mem_rule : text ∈ k.rule
  longest : ∀ w, w <+: text ++ rest → w ∈ k.rule → w.length ≤ text.length
  alone : ∀ k' ≠ k, ∀ w, w <+: text ++ rest → w ≠ [] → w ∉ k'.rule

/-- No rule matches at the front of `text ++ rest`, and `text` is passed over. -/
structure Lexeme.Passes (text rest : List Char) : Prop where
  unmatched : ∀ (k : Token.Kind) (w), w <+: text ++ rest → w ≠ [] → w ∉ k.rule
  shape : (∃ c, c ≠ '"' ∧ text = [c]) ∨
    ∃ units, text = '"' :: units ∧ units ∈ stringUnit∗ ∧
      ∀ w, w <+: units ++ rest → w ∈ stringUnit∗ → w.length ≤ units.length

/-- `Munched start cs items`: the rules cut the text `cs`, which stands at the byte offset `start`,
into the items. -/
inductive Munched : Nat → List Char → List Item → Prop
  | nil (start : Nat) : Munched start [] []
  | token {start : Nat} {kind : Token.Kind} {text rest : List Char} {items : List Item} :
      kind.Munches text rest → Munched (start + Text.byteSize text) rest items →
      Munched start (text ++ rest)
        (.token ⟨kind, String.ofList text, ⟨start, start + Text.byteSize text⟩⟩ :: items)
  | stray {start : Nat} {text rest : List Char} {items : List Item} :
      Lexeme.Passes text rest → Munched (start + Text.byteSize text) rest items →
      Munched start (text ++ rest)
        (.error ⟨.unrecognized, ⟨start, start + Text.byteSize text⟩⟩ :: items)

/-! ## Runs of string units -/

namespace Lexeme

theorem append_mem_kstar_stringUnit {u w : List Char} (hu : u ∈ stringUnit) (hw : w ∈ stringUnit∗) :
    u ++ w ∈ stringUnit∗ := by
  rw [← Language.one_add_self_mul_kstar_eq_kstar]
  exact Or.inr (Language.append_mem_mul hu hw)

theorem plain_mem_stringUnit {c : Char} (hc : isPlain c = true) : [c] ∈ stringUnit :=
  Or.inl ⟨c, hc, rfl⟩

theorem escaped_mem_stringUnit {c : Char} (hc : isEscapable c = true) : ['\\', c] ∈ stringUnit :=
  Or.inr (Text.cons_mem_mul ⟨c, hc, rfl⟩)

theorem stringUnits_mem_kstar (cs : List Char) : (stringUnits cs).1 ∈ stringUnit∗ := by
  fun_induction stringUnits cs with
  | case1 c r hc units ih => exact append_mem_kstar_stringUnit (escaped_mem_stringUnit hc) ih
  | case3 c r hr hc units ih => exact append_mem_kstar_stringUnit (plain_mem_stringUnit hc) ih
  | case2 | case4 | case5 => exact Language.nil_mem_kstar _

/-- Units at the front of a text belong to its run of units. -/
theorem stringUnits_units_append {u : List Char} (hu : u ∈ stringUnit∗) (r : List Char) :
    stringUnits (u ++ r) = (u ++ (stringUnits r).1, (stringUnits r).2) := by
  obtain ⟨parts, rfl, hparts⟩ := Language.mem_kstar.1 hu
  clear hu
  induction parts with
  | nil => rfl
  | cons part parts ih =>
    rw [List.forall_mem_cons] at hparts
    obtain ⟨⟨c, hc, rfl⟩ | hpart, hparts⟩ := hparts
    · simp [stringUnits_plain _ hc, ih hparts]
    · obtain ⟨_, rfl, _, ⟨c, hc, rfl⟩, rfl⟩ := hpart
      simp [stringUnits_escaped _ hc, ih hparts]

/-- The units of a string end where the quote after them stands. -/
theorem ofUnits_stringUnits {u : List Char} (hu : u ∈ stringUnit∗) (rest : List Char) :
    ofUnits (stringUnits (u ++ '"' :: rest)) = (⟨some .string, '"' :: u ++ ['"']⟩, rest) := by
  rw [stringUnits_units_append hu, stringUnits_quote, List.append_nil]
  rfl

/-! ## What a rule matches is scanned -/

/-- Where a rule matches some text, the first lexeme is of its kind and at least as long. -/
theorem first_of_mem_rule {k : Token.Kind} {w : List Char} (hw : w ∈ k.rule) (rest : List Char) :
    ∃ c r, w ++ rest = c :: r ∧ (first c r).1.kind? = some k ∧
      w.length ≤ (first c r).1.text.length := by
  cases k with
  | whitespace =>
    obtain ⟨c, r, rfl, hc, hr⟩ := Text.mem_oneOf_mul.1 hw
    refine ⟨c, r ++ rest, rfl, ?_⟩
    rw [first_blank _ hc, List.takeWhile_append_of_pos (Text.mem_kstar_oneOf.1 hr)]
    simp
  | lparen => obtain rfl := hw; exact ⟨'(', rest, rfl, rfl, le_rfl⟩
  | rparen => obtain rfl := hw; exact ⟨')', rest, rfl, rfl, le_rfl⟩
  | integer =>
    obtain rfl | hw := hw
    · exact ⟨'0', rest, rfl, rfl, le_rfl⟩
    · obtain ⟨c, r, rfl, hc, hr⟩ := Text.mem_oneOf_mul.1 hw
      rw [Bool.and_eq_true, bne_iff_ne] at hc
      refine ⟨c, r ++ rest, rfl, ?_⟩
      rw [first_digit _ hc.1 hc.2, List.takeWhile_append_of_pos (Text.mem_kstar_oneOf.1 hr)]
      simp
  | string =>
    obtain ⟨_, ⟨_, rfl, u, hu, rfl⟩, _, rfl, rfl⟩ := hw
    refine ⟨'"', u ++ '"' :: rest, by simp, ?_⟩
    rw [first_quote, ofUnits_stringUnits hu]
    simp
  | atom =>
    obtain ⟨c, r, rfl, hc, hr⟩ := Text.mem_oneOf_mul.1 hw
    refine ⟨c, r ++ rest, rfl, ?_⟩
    rw [first_atomStart _ hc, List.takeWhile_append_of_pos (Text.mem_kstar_oneOf.1 hr)]
    simp

/-! ## What is scanned, its rule matches -/

theorem cons_takeWhile_mem {p q : Char → Bool} {c : Char} (hc : p c = true) (r : List Char) :
    c :: r.takeWhile q ∈ Text.oneOf p * (Text.oneOf q)∗ :=
  Text.mem_oneOf_mul.2 ⟨c, _, rfl, hc, Text.mem_kstar_oneOf.2 (List.all_eq_true.1 List.all_takeWhile)⟩

theorem text_first_mem_rule {c : Char} {r : List Char} {k : Token.Kind}
    (h : (first c r).1.kind? = some k) : (first c r).1.text ∈ k.rule := by
  cases start c with
  | blank hc => rw [first_blank r hc] at h ⊢; cases h; exact cons_takeWhile_mem hc r
  | lparen => cases h; rfl
  | rparen => cases h; rfl
  | zero => cases h; exact Or.inl rfl
  | digit hc h0 =>
    rw [first_digit r hc h0] at h ⊢
    cases h
    exact Or.inr (cons_takeWhile_mem (by simp [hc, h0]) r)
  | atom hc => rw [first_atomStart r hc] at h ⊢; cases h; exact cons_takeWhile_mem hc r
  | quote =>
    rw [first_quote, ofUnits] at h ⊢
    split at h
    · cases h
      exact Language.mem_mul.2 ⟨_, Text.cons_mem_mul (stringUnits_mem_kstar r), ['"'], rfl, rfl⟩
    · cases h
  | stray _ hf => rw [hf] at h; cases h

/-- Stray text is one character, or a quote with all the units after it. -/
theorem text_first_of_stray {c : Char} {r : List Char} (h : (first c r).1.kind? = none) :
    (c ≠ '"' ∧ first c r = (⟨none, [c]⟩, r)) ∨
      (c = '"' ∧ first c r = (⟨none, '"' :: (stringUnits r).1⟩, (stringUnits r).2)) := by
  cases start c with
  | blank hc => rw [first_blank r hc] at h; cases h
  | lparen | rparen | zero => cases h
  | digit hc h0 => rw [first_digit r hc h0] at h; cases h
  | atom hc => rw [first_atomStart r hc] at h; cases h
  | quote =>
    rw [first_quote, ofUnits] at h ⊢
    split at h
    · cases h
    · exact .inr ⟨rfl, rfl⟩
  | stray hc hf => exact .inl ⟨hc, hf r⟩

/-! ## Maximal munch -/

/-- A lexeme stands where the rules put it, with the text `rest` after it. -/
def IsMunched (l : Lexeme) (rest : List Char) : Prop :=
  match l.kind? with
  | some kind => kind.Munches l.text rest
  | none => Passes l.text rest

/-- Whatever a rule matches at the front of a text is no longer than the first lexeme, and the rule
is that of the lexeme. -/
theorem kind_first_of_match {c : Char} {r w : List Char} {k : Token.Kind} (hw : w ∈ k.rule)
    (hp : w <+: c :: r) : (first c r).1.kind? = some k ∧ w.length ≤ (first c r).1.text.length := by
  obtain ⟨rest, hr⟩ := hp
  obtain ⟨c', r', heq, hk, hl⟩ := first_of_mem_rule hw rest
  rw [hr] at heq
  cases heq
  exact ⟨hk, hl⟩

theorem isMunched_first (c : Char) (r : List Char) : (first c r).1.IsMunched (first c r).2 := by
  unfold IsMunched
  cases hk : (first c r).1.kind? with
  | some kind =>
    refine ⟨text_first_mem_rule hk, fun w hp hw => ?_, fun k' hne w hp _ hw => ?_⟩
    · rw [first_append] at hp
      exact (kind_first_of_match hw hp).2
    · rw [first_append] at hp
      rw [(kind_first_of_match hw hp).1] at hk
      exact hne (Option.some.inj hk)
  | none =>
    refine ⟨fun k w hp _ hw => ?_, ?_⟩
    · rw [first_append] at hp
      rw [(kind_first_of_match hw hp).1] at hk
      cases hk
    · obtain ⟨hc, hf⟩ | ⟨rfl, hf⟩ := text_first_of_stray hk
      · rw [hf]
        exact .inl ⟨c, hc, rfl⟩
      · rw [hf]
        refine .inr ⟨_, rfl, stringUnits_mem_kstar r, fun w hp hw => ?_⟩
        obtain ⟨rest, hr⟩ := hp
        simp only [stringUnits_append] at hr
        rw [← hr, stringUnits_units_append hw]
        simp

/-! ## The rules leave no choice -/

theorem ne_nil_of_mem_rule {k : Token.Kind} {w : List Char} (hw : w ∈ k.rule) : w ≠ [] := by
  obtain ⟨c, r, heq, -⟩ := first_of_mem_rule hw []
  rintro rfl
  cases heq

theorem IsMunched.text_ne_nil {l : Lexeme} {rest : List Char} (h : l.IsMunched rest) :
    l.text ≠ [] := by
  unfold IsMunched at h
  split at h
  · exact ne_nil_of_mem_rule h.mem_rule
  · obtain ⟨c, -, ht⟩ | ⟨units, ht, -⟩ := h.shape
    · simp [ht]
    · simp [ht]

/-- Of two lexemes that the rules put at one place, none is longer. -/
theorem IsMunched.length_le {l l' : Lexeme} {rest rest' : List Char} (h : l.IsMunched rest)
    (h' : l'.IsMunched rest') (heq : l.text ++ rest = l'.text ++ rest') :
    l.kind? = l'.kind? ∧ l'.text.length ≤ l.text.length := by
  have hne := h.text_ne_nil
  have hne' := h'.text_ne_nil
  have hp : l.text <+: l'.text ++ rest' := ⟨rest, heq⟩
  have hp' : l'.text <+: l.text ++ rest := ⟨rest', heq.symm⟩
  unfold IsMunched at h h'
  cases hk : l.kind? with
  | some k =>
    rw [hk] at h
    cases hk' : l'.kind? with
    | some k' =>
      rw [hk'] at h'
      have hkk : k' = k := by
        by_contra hkk
        exact h.alone k' hkk _ hp' hne' h'.mem_rule
      subst hkk
      exact ⟨rfl, h.longest _ hp' h'.mem_rule⟩
    | none =>
      rw [hk'] at h'
      exact absurd h.mem_rule (h'.unmatched k _ hp hne)
  | none =>
    rw [hk] at h
    cases hk' : l'.kind? with
    | some k' =>
      rw [hk'] at h'
      exact absurd h'.mem_rule (h.unmatched k' _ hp' hne')
    | none =>
      rw [hk'] at h'
      refine ⟨rfl, ?_⟩
      -- a quote is passed over with units after it and any other character without
      obtain ⟨c, hc, ht⟩ | ⟨units, ht, -, hl⟩ := h.shape <;>
        obtain ⟨c', hc', ht'⟩ | ⟨units', ht', hu', -⟩ := h'.shape <;> rw [ht, ht'] at heq hp' ⊢
      · exact le_rfl
      · exact absurd (List.cons.inj heq).1 hc
      · exact absurd (List.cons.inj heq).1.symm hc'
      · exact Nat.succ_le_succ (hl _ (List.cons_prefix_cons.1 hp').2 hu')

theorem IsMunched.unique {l l' : Lexeme} {rest rest' : List Char} (h : l.IsMunched rest)
    (h' : l'.IsMunched rest') (heq : l.text ++ rest = l'.text ++ rest') :
    l = l' ∧ rest = rest' := by
  obtain ⟨hk, hle⟩ := h.length_le h' heq
  obtain ⟨-, hge⟩ := h'.length_le h heq.symm
  obtain ⟨ht, hr⟩ := List.append_inj heq (le_antisymm hge hle)
  cases l
  cases l'
  cases hk
  cases ht
  exact ⟨rfl, hr⟩

/-- A lexeme that the rules put at the front of a text is the first one. -/
theorem IsMunched.ofText_eq {l : Lexeme} {rest : List Char} (h : l.IsMunched rest) :
    ofText (l.text ++ rest) = l :: ofText rest := by
  cases hcs : l.text ++ rest with
  | nil => exact absurd (List.append_eq_nil_iff.1 hcs).1 h.text_ne_nil
  | cons c r =>
    obtain ⟨hl, hr⟩ := (isMunched_first c r).unique h ((first_append c r).trans hcs.symm)
    rw [ofText, hl, hr]

end Lexeme

/-! ## Items -/

namespace Munched

open Lexeme

theorem cons {l : Lexeme} {rest : List Char} {start : Nat} {items : List Item}
    (hl : l.IsMunched rest) (hi : Munched (start + Text.byteSize l.text) rest items) :
    Munched start (l.text ++ rest) (l.itemAt start :: items) := by
  unfold IsMunched at hl
  unfold itemAt
  cases hk : l.kind? with
  | some kind => rw [hk] at hl; exact .token hl hi
  | none => rw [hk] at hl; exact .stray hl hi

theorem of_place (start : Nat) (cs : List Char) : Munched start cs (place start (ofText cs)) := by
  fun_induction ofText cs generalizing start with
  | case1 => exact .nil start
  | case2 c r l ih =>
    rw [place, ← first_append c r]
    exact cons (isMunched_first c r) (ih _)

theorem place_eq {start : Nat} {cs : List Char} {items : List Item}
    (h : Munched start cs items) : place start (ofText cs) = items := by
  induction h with
  | nil start => rw [ofText, place]
  | @token start kind text rest items hm _ ih =>
    have hl : (⟨some kind, text⟩ : Lexeme).IsMunched rest := hm
    rw [hl.ofText_eq, place, ih]
    rfl
  | @stray start text rest items hm _ ih =>
    have hl : (⟨none, text⟩ : Lexeme).IsMunched rest := hm
    rw [hl.ofText_eq, place, ih]
    rfl

end Munched

theorem Tokenizer.items_default (source : String) :
    ({} : Tokenizer).items source = Lexeme.place 0 (Lexeme.ofText source.toList) :=
  List.filter_eq_self.2 fun _ _ => rfl

/-- The items of a source are the ones into which the rules cut it, and no others. -/
theorem Tokenizer.items_eq_iff_munched (source : String) (items : List Item) :
    ({} : Tokenizer).items source = items ↔ Munched 0 source.toList items := by
  rw [items_default]
  constructor
  · rintro rfl
    exact Munched.of_place 0 source.toList
  · exact Munched.place_eq

end StackLisp
