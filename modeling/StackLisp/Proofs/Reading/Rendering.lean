/-
Written forms as texts. A written form neither starts nor ends with a blank, and no semicolon stands
in front of it. It stands on one line if its strings have no carriage returns: a string that is read
has characters of its source only. Expressions that can be read are told apart by their written forms.
-/
import StackLisp.Proofs.Reading.Joining
import StackLisp.Proofs.Text.Lines

namespace StackLisp

open Text (IsLine)

/-! ## Blanks around a text -/

namespace Text

theorem trimStart_eq_self {s : String} (h : ∀ c ∈ s.toList.head?, isBlank c = false) :
    trimStart s = s := by
  have hdrop : s.toList.dropWhile isBlank = s.toList := by
    cases hs : s.toList with
    | nil => rfl
    | cons c r => rw [List.dropWhile_cons_of_neg (by simp [h c (by simp [hs])])]
  rw [trimStart, hdrop, String.ofList_toList]

theorem trimEnd_eq_self {s : String} (h : ∀ c ∈ s.toList.getLast?, isBlank c = false) :
    trimEnd s = s := by
  have hrev : trimStart (String.ofList s.toList.reverse) = String.ofList s.toList.reverse :=
    trimStart_eq_self (by rwa [String.toList_ofList, List.head?_reverse])
  have hdrop := congrArg String.toList hrev
  rw [trimStart, String.toList_ofList, String.toList_ofList] at hdrop
  rw [trimEnd, hdrop, List.reverse_reverse, String.ofList_toList]

/-- A text with no blank at either end and no semicolon in front. -/
structure IsTrimmed (s : String) : Prop where
  head : ∀ c ∈ s.toList.head?, isBlank c = false ∧ c ≠ ';'
  last : ∀ c ∈ s.toList.getLast?, isBlank c = false

theorem IsTrimmed.trimStart_eq {s : String} (h : IsTrimmed s) : trimStart s = s :=
  trimStart_eq_self fun c hc => (h.head c hc).1

theorem IsTrimmed.trimEnd_eq {s : String} (h : IsTrimmed s) : trimEnd s = s :=
  trimEnd_eq_self h.last

theorem IsTrimmed.trim_eq {s : String} (h : IsTrimmed s) : trim s = s := by
  rw [trim, h.trimStart_eq, h.trimEnd_eq]

theorem isTrimmed_of_enclosed {s : String} {opening closing : Char} {body : List Char}
    (hs : s.toList = opening :: (body ++ [closing])) (ho : isBlank opening = false ∧ opening ≠ ';')
    (hc : isBlank closing = false) : IsTrimmed s := by
  constructor
  · rw [hs]
    rintro _ ⟨⟩
    exact ho
  · rw [hs, ← List.cons_append, List.getLast?_concat]
    rintro _ ⟨⟩
    exact hc

/-- A run of characters of atoms. -/
theorem isTrimmed_of_forall {s : String} (h : ∀ c ∈ s.toList, Lexeme.isAtomChar c = true) :
    IsTrimmed s := by
  constructor
  · intro c hc
    have ha := h c (List.mem_of_mem_head? hc)
    refine ⟨Lexeme.isBlank_of_isAtomChar ha, ?_⟩
    rintro rfl
    exact absurd ha (by decide)
  · intro c hc
    exact Lexeme.isBlank_of_isAtomChar (h c (List.mem_of_getLast? hc))

theorem isLine_of_forall {s : String} (h : ∀ c ∈ s.toList, Lexeme.isAtomChar c = true) : IsLine s :=
  ⟨fun hn => absurd (h _ hn) (by decide), fun hr => absurd (h _ hr) (by decide)⟩

end Text

theorem Lexeme.isAtomChar_of_mem_rule {w : List Char} (h : w ∈ Token.Kind.atom.rule) :
    ∀ c ∈ w, isAtomChar c = true := by
  obtain ⟨c, r, rfl, hc, hr⟩ := Text.mem_oneOf_mul.1 h
  exact List.forall_mem_cons.2 ⟨isAtomChar_of_isAtomStart hc, Text.mem_kstar_oneOf.1 hr⟩

/-! ## Strings and their sources -/

namespace Literal

/-- Escaping adds nothing but backslashes. -/
theorem mem_escapeBody_iff {c : Char} (hc : c ≠ '\\') (cs : List Char) :
    c ∈ escapeBody cs ↔ c ∈ cs := by
  induction cs with
  | nil => rfl
  | cons d r ih => by_cases hd : Lexeme.isEscapable d <;> simp [escapeBody, hd, hc, ih]

theorem mem_escape_iff {c : Char} (hc : c ≠ '\\') (hq : c ≠ '"') (value : String) :
    c ∈ (escape value).toList ↔ c ∈ value.toList := by
  simp [escape, hq, mem_escapeBody_iff hc]

end Literal

theorem Token.escape_of_symbol? {t : Token} {value : String} (h : t.symbol? = some (.string value)) :
    Literal.escape value = t.text := by
  have hk : t.kind = .string := kind_of_symbol? h
  simp only [symbol?, hk] at h
  cases hv : Literal.unescape t.text with
  | error fault => rw [hv] at h; cases h
  | ok v =>
    rw [hv] at h
    cases h
    exact Literal.escape_of_unescape hv

/-- A character of a string that is read is a character of the source. -/
theorem Text.mem_of_mem_symbols {c : Char} (hc : c ≠ '\\') (hq : c ≠ '"') {cs : List Char}
    {value : String} (h : some (.string value) ∈ symbols cs) (hv : c ∈ value.toList) : c ∈ cs := by
  obtain ⟨i, hi, hs⟩ := List.mem_map.1 h
  obtain ⟨before, l, after, hls, hl⟩ := Lexeme.mem_place (List.mem_filter.1 hi).1
  cases i with
  | error e => cases hs
  | token t =>
    obtain ⟨-, ht⟩ := Lexeme.of_token_eq_itemAt hl
    have hraw : Literal.escape value = t.text := Token.escape_of_symbol? hs
    rw [← Literal.mem_escape_iff hc hq, hraw, ht, String.toList_ofList] at hv
    rw [← Lexeme.flatMap_text_ofText cs, List.mem_flatMap]
    exact ⟨l, by simp [hls], hv⟩

/-! ## Written forms -/

namespace Expr

theorem isTrimmed_render {e : Expr} (he : e.Representable) : Text.IsTrimmed e.render := by
  cases e with
  | atom name =>
    exact Text.isTrimmed_of_forall
      (Lexeme.isAtomChar_of_mem_rule (he (.atom name) (List.mem_singleton_self _)))
  | integer value =>
    have hv : 0 ≤ value := he (.integer value) (List.mem_singleton_self _)
    obtain ⟨n, rfl⟩ := Int.eq_ofNat_of_zero_le hv
    exact Text.isTrimmed_of_forall fun c hc =>
      Lexeme.isAtomChar_of_isDigit (Text.isDigit_of_mem_repr hc)
  | string value =>
    exact Text.isTrimmed_of_enclosed (String.toList_ofList ..) (by decide) (by decide)
  | list es =>
    have hs : (list es).render.toList =
        '(' :: ((" ".intercalate (renderAll es)).toList ++ [')']) := by
      rw [render, String.toList_append, String.toList_append]
      rfl
    exact Text.isTrimmed_of_enclosed hs (by decide) (by decide)

mutual

/-- A written form stands on one line unless a string of it has a carriage return. -/
theorem isLine_render (e : Expr) (he : e.Representable)
    (hcr : ∀ value, .string value ∈ e.flatten → '\r' ∉ value.toList) : IsLine e.render := by
  cases e with
  | atom name =>
    exact Text.isLine_of_forall
      (Lexeme.isAtomChar_of_mem_rule (he (.atom name) (List.mem_singleton_self _)))
  | integer value =>
    have hv : 0 ≤ value := he (.integer value) (List.mem_singleton_self _)
    obtain ⟨n, rfl⟩ := Int.eq_ofNat_of_zero_le hv
    exact Text.isLine_repr n
  | string value =>
    have hmem : .string value ∈ flatten (.string value) := List.mem_singleton_self _
    rw [render, IsLine, Literal.mem_escape_iff (by decide) (by decide),
      Literal.mem_escape_iff (by decide) (by decide)]
    exact ⟨he _ hmem, hcr value hmem⟩
  | list es =>
    have hin : ∀ s ∈ flattenAll es, s ∈ (list es).flatten := fun s hs => by simp [flatten, hs]
    have hspace : IsLine " " := by decide
    have hopening : IsLine "(" := by decide
    have hclosing : IsLine ")" := by decide
    have hes := isLine_of_mem_renderAll es (fun s hs => he s (hin s hs))
      fun value hv => hcr value (hin _ hv)
    exact (hopening.append (Text.isLine_intercalate hspace hes)).append hclosing
termination_by sizeOf e

theorem isLine_of_mem_renderAll (es : List Expr) (hes : ∀ s ∈ flattenAll es, s.Legible)
    (hcr : ∀ value, .string value ∈ flattenAll es → '\r' ∉ value.toList) :
    ∀ l ∈ renderAll es, IsLine l := by
  cases es with
  | nil => exact fun l hl => absurd hl List.not_mem_nil
  | cons e es =>
    rw [flattenAll] at hes hcr
    rw [renderAll, List.forall_mem_cons]
    exact ⟨isLine_render e (fun s hs => hes s (List.mem_append_left _ hs))
        fun value hv => hcr value (List.mem_append_left _ hv),
      isLine_of_mem_renderAll es (fun s hs => hes s (List.mem_append_right _ hs))
        fun value hv => hcr value (List.mem_append_right _ hv)⟩
termination_by sizeOf es

end

theorem render_inj {e e' : Expr} (he : e.Representable) (he' : e'.Representable)
    (h : e.render = e'.render) : e = e' := by
  -- a reader that takes both of them reads one expression from their common text
  let r : Reader := ⟨{}, max e.depth e'.depth⟩
  have hread : r.parse e.render = .ok [e] := Reader.parse_render he (Nat.le_max_left _ _)
  have hread' : r.parse e'.render = .ok [e'] := Reader.parse_render he' (Nat.le_max_right _ _)
  rw [h, hread'] at hread
  cases hread
  rfl

theorem map_render_inj {p q : List Expr} (hp : ∀ e ∈ p, e.Representable)
    (hq : ∀ e ∈ q, e.Representable) (h : p.map render = q.map render) : p = q := by
  induction p generalizing q with
  | nil => exact (List.map_eq_nil_iff.1 h.symm).symm
  | cons e p ih =>
    cases q with
    | nil => cases h
    | cons e' q =>
      rw [List.forall_mem_cons] at hp hq
      obtain ⟨he, htail⟩ := List.cons.inj h
      rw [render_inj hp.1 hq.1 he, ih hp.2 hq.2 htail]

end Expr

namespace Reader

/-- What is read from a source without carriage returns is written on lines. -/
theorem isLine_render_of_parse {r : Reader} {source : String} {p : Program}
    (h : r.parse source = .ok p) (hcr : '\r' ∉ source.toList) : ∀ e ∈ p, IsLine e.render := by
  obtain ⟨hs, -⟩ := parse_eq_ok_iff_symbols.1 h
  rw [← List.forall_mem_map, ← Expr.renderAll_eq_map]
  refine Expr.isLine_of_mem_renderAll p
    (Expr.forall_mem_flattenAll.2 (representable_of_parse h)) fun value hv hc => ?_
  have hmem : some (.string value) ∈ Text.symbols source.toList := by
    rw [hs]
    exact List.mem_map_of_mem hv
  exact hcr (Text.mem_of_mem_symbols (by decide) (by decide) hmem hc)

/-- A line feed at the end of a source is not read. -/
theorem parse_concat_newline (r : Reader) (source : String) :
    r.parse (source ++ "\n") = r.parse source := by
  have htext : (source ++ "\n").toList = source.toList ++ '\n' :: [] := by simp
  rw [parse_eq_program, parse_eq_program, htext, Text.itemsFrom_append_newline, Text.itemsFrom_nil,
    List.append_nil]

end Reader

/-- The symbols of lines that are put together. -/
theorem Text.symbols_unlines (ls : List String) :
    symbols (unlines ls).toList = ls.flatMap fun l => symbols l.toList := by
  induction ls with
  | nil => exact symbols_nil
  | cons l ls ih =>
    cases ls with
    | nil => rw [List.flatMap_singleton]; rfl
    | cons l' ls =>
      have htext : (unlines (l :: l' :: ls)).toList =
          l.toList ++ '\n' :: (unlines (l' :: ls)).toList := by
        rw [unlines_cons_cons, String.toList_append, String.toList_append, List.append_assoc]
        rfl
      rw [List.flatMap_cons, htext, symbols_append_newline, ih]

end StackLisp
