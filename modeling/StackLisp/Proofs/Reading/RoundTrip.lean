/-
Writing and reading back. An expression is representable if its names are texts of the atom rule, its
integers are not negative and its strings have no line feeds. Only such expressions are ever read.
The blanks and parentheses between written forms keep an atom or an integer from going on into what
follows it, so the symbols of a text are those of the forms written there.

Main statement: a program that is written line by line is read back if and only if its expressions
are representable and fit into the limit.
-/
import StackLisp.Expr.Printer
import StackLisp.Text.Lines
import StackLisp.Proofs.Reading.Items
import StackLisp.Proofs.Reading.Symbols
import StackLisp.Proofs.Token.Encoding

namespace StackLisp

/-! ## Expressions that can be written -/

/-- A name has to be a text of the atom rule, an integer not negative, a string without line feeds. -/
def Symbol.Legible : Symbol → Prop
  | .lparen | .rparen => True
  | .atom name => name.toList ∈ Token.Kind.atom.rule
  | .integer value => 0 ≤ value
  | .string value => '\n' ∉ value.toList

/-- Every atom, integer and string of the expression is legible. -/
def Expr.Representable (e : Expr) : Prop := ∀ s ∈ e.flatten, s.Legible

theorem Expr.forall_mem_flattenAll {P : Symbol → Prop} {es : List Expr} :
    (∀ s ∈ flattenAll es, P s) ↔ ∀ e ∈ es, ∀ s ∈ e.flatten, P s := by
  induction es with
  | nil => simp [flattenAll]
  | cons e es ih => rw [flattenAll, List.forall_mem_append, List.forall_mem_cons, ih]

/-! ## Where a token ends -/

namespace Lexeme

/-- No atom and no integer goes on into the text. -/
def Breaks (rest : List Char) : Prop := ∀ c ∈ rest.head?, isAtomChar c = false

theorem breaks_nil : Breaks [] := by
  rintro _ ⟨⟩

theorem breaks_blank {c : Char} (hc : Text.isBlank c = true) (r : List Char) : Breaks (c :: r) := by
  rintro _ ⟨⟩
  rw [Bool.eq_false_iff]
  intro ha
  rw [isBlank_of_isAtomChar ha] at hc
  cases hc

theorem takeWhile_append_of_breaks {p : Char → Bool} (hp : ∀ c, p c = true → isAtomChar c = true)
    {w rest : List Char} (hw : ∀ c ∈ w, p c = true) (hr : Breaks rest) :
    (w ++ rest).takeWhile p = w ∧ (w ++ rest).dropWhile p = rest := by
  rw [List.takeWhile_append_of_pos hw, List.dropWhile_append_of_pos hw]
  cases rest with
  | nil => simp
  | cons c r =>
    have hc : ¬ p c = true := by
      intro h
      have hb := hr c rfl
      rw [hp c h] at hb
      cases hb
    simp [hc]

/-- A text of a rule is a lexeme of its own if the text after it breaks it off. -/
theorem ofText_append_of_mem_rule {k : Token.Kind} (hk : k ≠ .whitespace) {w : List Char}
    (hw : w ∈ k.rule) {rest : List Char} (hr : Breaks rest) :
    ofText (w ++ rest) = ⟨some k, w⟩ :: ofText rest := by
  cases k with
  | whitespace => exact absurd rfl hk
  | lparen => obtain rfl := hw; exact ofText_of_first (first_lparen rest)
  | rparen => obtain rfl := hw; exact ofText_of_first (first_rparen rest)
  | integer =>
    obtain rfl | hw := hw
    · exact ofText_of_first (first_zero rest)
    · obtain ⟨c, r, rfl, hc, hd⟩ := Text.mem_oneOf_mul.1 hw
      rw [Bool.and_eq_true, bne_iff_ne] at hc
      obtain ⟨ht, hd⟩ := takeWhile_append_of_breaks (fun _ => isAtomChar_of_isDigit)
        (Text.mem_kstar_oneOf.1 hd) hr
      rw [List.cons_append, ofText_of_first (first_digit _ hc.1 hc.2), ht, hd]
  | string =>
    obtain ⟨_, ⟨_, rfl, u, hu, rfl⟩, _, rfl, rfl⟩ := hw
    have hf := (first_quote (u ++ '"' :: rest)).trans (ofUnits_stringUnits hu rest)
    simpa using ofText_of_first hf
  | atom =>
    obtain ⟨c, r, rfl, hc, hd⟩ := Text.mem_oneOf_mul.1 hw
    obtain ⟨ht, hd⟩ := takeWhile_append_of_breaks (fun _ => id) (Text.mem_kstar_oneOf.1 hd) hr
    rw [List.cons_append, ofText_of_first (first_atomStart _ hc), ht, hd]

end Lexeme

/-! ## The symbols of a text -/

/-- The symbols of a text, with a gap for each piece of stray text. -/
def Text.symbols (cs : List Char) : List (Option Symbol) :=
  Item.symbols (Lexeme.place 0 (Lexeme.ofText cs))

/-- Symbols do not depend on where a text stands. -/
theorem Text.symbols_eq_map_itemsFrom (start : Nat) (cs : List Char) :
    symbols cs = (itemsFrom start cs).map Item.symbol? := by
  have hsymbol : Item.symbol? ∘ Item.shift start = Item.symbol? := by
    funext i
    cases i <;> rfl
  rw [← Nat.zero_add start, itemsFrom_add, List.map_map, hsymbol]
  rfl

theorem Tokenizer.symbols_items (t : Tokenizer) (source : String) :
    Item.symbols (t.items source) = Text.symbols source.toList := by
  rw [Item.symbols, nonblank_items, ← Text.symbols_eq_map_itemsFrom]

namespace Text

open Lexeme

theorem symbols_nil : symbols [] = [] := by
  rw [symbols_eq_map_itemsFrom 0, itemsFrom_nil]
  rfl

theorem symbols_blank {c : Char} (hc : isBlank c = true) (r : List Char) :
    symbols (c :: r) = symbols r := by
  rw [symbols_eq_map_itemsFrom 0, itemsFrom_blank 0 hc, ← symbols_eq_map_itemsFrom]

theorem symbols_of_ofText {cs rest w : List Char} {k : Token.Kind} {s : Symbol}
    (h : ofText cs = ⟨some k, w⟩ :: ofText rest)
    (hs : ∀ span, Token.symbol? ⟨k, String.ofList w, span⟩ = some s) :
    symbols cs = some s :: symbols rest := by
  have hk : k ≠ .whitespace := Token.kind_ne_of_symbol? (hs ⟨0, 0⟩)
  rw [symbols, h, place, itemAt, Item.symbols_token hk, hs]
  exact congrArg _ (symbols_eq_map_itemsFrom _ rest).symm

theorem symbols_lparen (r : List Char) : symbols ('(' :: r) = some .lparen :: symbols r :=
  symbols_of_ofText (ofText_of_first (first_lparen r)) fun _ => rfl

theorem symbols_rparen (r : List Char) : symbols (')' :: r) = some .rparen :: symbols r :=
  symbols_of_ofText (ofText_of_first (first_rparen r)) fun _ => rfl

/-- A text of a rule gives its symbol if the text after it breaks it off. -/
theorem symbols_append {k : Token.Kind} {w : List Char} (hw : w ∈ k.rule) {s : Symbol}
    (hs : ∀ span, Token.symbol? ⟨k, String.ofList w, span⟩ = some s) {rest : List Char}
    (hr : Breaks rest) : symbols (w ++ rest) = some s :: symbols rest := by
  have hk : k ≠ .whitespace := Token.kind_ne_of_symbol? (hs ⟨0, 0⟩)
  exact symbols_of_ofText (ofText_append_of_mem_rule hk hw hr) hs

end Text

/-! ## What is written is read -/

namespace Expr

open Lexeme

mutual

/-- A written form gives the expression written out as symbols, and then those of what follows. -/
theorem symbols_render (e : Expr) (he : e.Representable) {rest : List Char} (hr : Breaks rest) :
    Text.symbols (e.render.toList ++ rest) = e.flatten.map some ++ Text.symbols rest := by
  cases e with
  | atom name =>
    have hn : name.toList ∈ Token.Kind.atom.rule := he (.atom name) (List.mem_singleton_self _)
    exact Text.symbols_append hn (fun _ => by simp [Token.symbol?]) hr
  | integer value =>
    have hv : 0 ≤ value := he (.integer value) (List.mem_singleton_self _)
    obtain ⟨n, rfl⟩ := Int.eq_ofNat_of_zero_le hv
    refine Text.symbols_append (Literal.repr_mem_rule n) (fun _ => ?_) hr
    simp only [Token.symbol?, String.ofList_toList, Literal.integer_repr]
  | string value =>
    have hv : '\n' ∉ value.toList := he (.string value) (List.mem_singleton_self _)
    refine Text.symbols_append (Literal.escape_mem_rule hv) (fun _ => ?_) hr
    simp [Token.symbol?, Literal.unescape_escape hv]
  | list es =>
    have hes : ∀ s ∈ flattenAll es, s.Legible := fun s hs => he s (by simp [flatten, hs])
    have hb : Breaks (')' :: rest) := by rintro _ ⟨⟩; decide
    have hi := symbols_renderAll " " ' ' rfl rfl es hes hb
    rw [render, flatten]
    simp only [String.toList_append, List.append_assoc]
    change Text.symbols ('(' :: (_ ++ ')' :: rest)) = _
    rw [Text.symbols_lparen, hi, Text.symbols_rparen]
    simp
termination_by sizeOf e

theorem symbols_renderAll (sep : String) (c : Char) (hs : sep.toList = [c])
    (hc : Text.isBlank c = true) (es : List Expr) (hes : ∀ s ∈ flattenAll es, s.Legible)
    {rest : List Char} (hr : Breaks rest) :
    Text.symbols ((sep.intercalate (renderAll es)).toList ++ rest) =
      (flattenAll es).map some ++ Text.symbols rest := by
  cases es with
  | nil => rfl
  | cons e es =>
    obtain ⟨he, hes⟩ := List.forall_mem_append.1 hes
    rw [flattenAll, List.map_append, List.append_assoc]
    cases es with
    | nil => exact symbols_render e he hr
    | cons e' es =>
      have hi := symbols_renderAll sep c hs hc (e' :: es) hes hr
      rw [renderAll] at hi
      rw [renderAll, renderAll, String.intercalate_cons_cons, String.toList_append,
        String.toList_append, hs, List.append_assoc, List.append_assoc, List.singleton_append,
        symbols_render e he (breaks_blank hc _), Text.symbols_blank hc, hi]
termination_by sizeOf es

end

end Expr

/-! ## What is read can be written -/

theorem Token.legible_of_symbol? {t : Token} {s : Symbol} (ht : t.text.toList ∈ t.kind.rule)
    (hs : t.symbol? = some s) : s.Legible := by
  unfold symbol? at hs
  split at hs
  · cases hs
  · cases hs; trivial
  · cases hs; trivial
  · rename_i hk; cases hs; rwa [hk] at ht
  · split at hs
    · cases hs; exact Int.natCast_nonneg _
    · cases hs
  · split at hs
    · rename_i hv; cases hs; exact Literal.not_mem_of_unescape hv
    · cases hs

theorem Text.legible_of_mem_symbols {cs : List Char} {s : Symbol} (h : some s ∈ symbols cs) :
    s.Legible := by
  obtain ⟨i, hi, hs⟩ := List.mem_map.1 h
  obtain ⟨before, l, after, hls, hl⟩ := Lexeme.mem_place (List.mem_filter.1 hi).1
  cases i with
  | error e => cases hs
  | token t =>
    have hrule : ∀ l ∈ Lexeme.ofText cs, ∀ k, l.kind? = some k → l.text ∈ k.rule :=
      Lexeme.forall_mem_ofText (fun _ _ _ => Lexeme.text_first_mem_rule) cs
    obtain ⟨hk, ht⟩ := Lexeme.of_token_eq_itemAt hl
    refine Token.legible_of_symbol? ?_ hs
    rw [ht, String.toList_ofList]
    exact hrule l (by simp [hls]) t.kind hk

namespace Reader

theorem parse_eq_ok_iff_symbols {r : Reader} {source : String} {p : Program} :
    r.parse source = .ok p ↔
      Text.symbols source.toList = (Expr.flattenAll p).map some ∧ ∀ e ∈ p, e.depth ≤ r.maxDepth := by
  rw [parse, program_eq_ok_iff, Tokenizer.symbols_items, Expr.depthAll_le_iff]

/-- Only representable expressions are ever read. -/
theorem representable_of_parse {r : Reader} {source : String} {p : Program}
    (h : r.parse source = .ok p) : ∀ e ∈ p, e.Representable := by
  obtain ⟨hs, -⟩ := parse_eq_ok_iff_symbols.1 h
  refine Expr.forall_mem_flattenAll.1 fun s hm => ?_
  have hm' : some s ∈ Text.symbols source.toList := by
    rw [hs]
    exact List.mem_map_of_mem hm
  exact Text.legible_of_mem_symbols hm'

theorem parse_render {r : Reader} {e : Expr} (he : e.Representable)
    (hd : e.depth ≤ r.maxDepth) : r.parse e.render = .ok [e] := by
  refine parse_eq_ok_iff_symbols.2 ⟨?_, by simpa using hd⟩
  have hs := e.symbols_render he Lexeme.breaks_nil
  rw [List.append_nil, Text.symbols_nil, List.append_nil] at hs
  rw [hs, Expr.flattenAll, Expr.flattenAll, List.append_nil]

/-- Expressions that are written line by line are read back if and only if they are representable
and none of them is nested deeper than the limit. -/
theorem parse_unlines_render_iff (r : Reader) (p : Program) :
    r.parse (Text.unlines (p.map Expr.render)) = .ok p ↔
      ∀ e ∈ p, e.Representable ∧ e.depth ≤ r.maxDepth := by
  constructor
  · intro h e he
    exact ⟨representable_of_parse h e he, (parse_eq_ok_iff_symbols.1 h).2 e he⟩
  · intro h
    refine parse_eq_ok_iff_symbols.2 ⟨?_, fun e he => (h e he).2⟩
    have hp := Expr.forall_mem_flattenAll.2 fun e he => (h e he).1
    have hs := Expr.symbols_renderAll "\n" '\n' rfl rfl p hp Lexeme.breaks_nil
    rwa [List.append_nil, Text.symbols_nil, List.append_nil, Expr.renderAll_eq_map] at hs

end Reader

end StackLisp
