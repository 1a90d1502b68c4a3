/-
Parentheses that do not balance. A pass over the items of a source that finds no fault closes as many
lists as it opens. If a parenthesis of such a source is taken out or doubled, all other parentheses
stay what they were, nothing becomes stray, and one list more is opened than closed, or closed than
opened. So there is a fault, and it is one of nesting.
-/
import StackLisp.Proofs.Reading.Joining
import StackLisp.Proofs.Token.Marks

namespace StackLisp

/-! ## Lists opened and closed -/

namespace Mark

/-- How a mark changes the number of open lists. -/
def change : Mark → Int
  | .opening => 1
  | .closing => -1
  | .stray => 0

/-- How many lists more the marks open than they close. -/
def net : List Mark → Int
  | [] => 0
  | m :: ms => m.change + net ms

@[simp] theorem net_nil : net [] = 0 := rfl

@[simp] theorem net_cons (m : Mark) (ms : List Mark) : net (m :: ms) = m.change + net ms := rfl

@[simp] theorem net_append (a b : List Mark) : net (a ++ b) = net a + net b := by
  induction a with
  | nil => simp
  | cons m a ih => rw [List.cons_append, net_cons, net_cons, ih, Int.add_assoc]

end Mark

namespace Item

def marks : Item → List Mark
  | .token t => Mark.ofKind (some t.kind)
  | .error _ => Mark.ofKind none

/-- Blanks leave no marks. -/
theorem marks_nonblank (items : List Item) :
    (nonblank items).flatMap marks = items.flatMap marks := by
  induction items with
  | nil => rfl
  | cons i items ih =>
    cases i with
    | error e => rw [nonblank_error, List.flatMap_cons, List.flatMap_cons, ih]
    | token t =>
      by_cases ht : t.kind = .whitespace
      · rw [nonblank_blank ht, ih, List.flatMap_cons, marks, ht]
        rfl
      · rw [nonblank_token ht, List.flatMap_cons, List.flatMap_cons, ih]

end Item

/-- A parenthesis opens or closes one list. -/
theorem Lexeme.net_marks_of_kind {l : Lexeme}
    (h : l.kind? = some .lparen ∨ l.kind? = some .rparen) :
    Mark.net l.marks = 1 ∨ Mark.net l.marks = -1 := by
  unfold marks
  rcases h with h | h
  · rw [h]; exact .inl rfl
  · rw [h]; exact .inr rfl

theorem Lexeme.net_marks_replicate (l : Lexeme) (n : Nat) :
    Mark.net ((List.replicate n l).flatMap marks) = n * Mark.net l.marks := by
  induction n with
  | zero => simp
  | succ n ih =>
    rw [List.replicate_succ, List.flatMap_cons, Mark.net_append, ih, Int.natCast_succ, Int.add_mul,
      Int.one_mul, Int.add_comm]

theorem Lexeme.marks_itemAt (l : Lexeme) (start : Nat) : (l.itemAt start).marks = l.marks := by
  unfold itemAt marks
  cases l.kind? <;> rfl

theorem Lexeme.marks_place (ls : List Lexeme) : ∀ start : Nat,
    (place start ls).flatMap Item.marks = ls.flatMap marks := by
  induction ls with
  | nil => intro start; rfl
  | cons l ls ih =>
    intro start
    rw [place, List.flatMap_cons, List.flatMap_cons, marks_itemAt, ih]

theorem Text.marks_itemsFrom (start : Nat) (cs : List Char) :
    (itemsFrom start cs).flatMap Item.marks = marks cs := by
  rw [itemsFrom, Item.marks_nonblank, Lexeme.marks_place]
  rfl

/-! ## Reading and balance -/

/-- The errors of nesting, as opposed to those of text that is no token. -/
def ParseError.IsNesting : ParseError → Prop
  | .unterminated _ | .unexpected _ _ | .tooDeep _ _ => True
  | .lex _ => False

namespace Reader

/-- A pass without a fault meets no stray text, and closes the lists that were open from the start as
well as those that it opens. -/
theorem net_of_flatPass {limit : Nat} {items : List Item} : ∀ {stack : List Span},
    flatPass limit stack items = none →
      .stray ∉ items.flatMap Item.marks ∧
        stack.length + Mark.net (items.flatMap Item.marks) = 0 := by
  induction items with
  | nil =>
    intro stack h
    cases stack with
    | nil => exact ⟨by simp, rfl⟩
    | cons opening stack => cases h
  | cons i items ih =>
    intro stack h
    cases i with
    | error e => rw [flatPass_error] at h; cases h
    | token t =>
      obtain ⟨kind, text, span⟩ := t
      cases kind with
      | lparen =>
        by_cases hd : limit ≤ stack.length
        · rw [flatPass_tooDeep limit rfl hd] at h; cases h
        · rw [flatPass_opening limit rfl (Nat.lt_of_not_le hd)] at h
          obtain ⟨hs, hn⟩ := ih h
          simp only [List.length_cons] at hn
          refine ⟨by simpa [Item.marks, Mark.ofKind] using hs, ?_⟩
          simp only [List.flatMap_cons, Item.marks, Mark.ofKind, Mark.net_append, Mark.net_cons,
            Mark.net_nil, Mark.change]
          omega
      | rparen =>
        cases stack with
        | nil => rw [flatPass_unexpected limit rfl] at h; cases h
        | cons opening stack =>
          rw [flatPass_closing limit rfl] at h
          obtain ⟨hs, hn⟩ := ih h
          refine ⟨by simpa [Item.marks, Mark.ofKind] using hs, ?_⟩
          simp only [List.length_cons, List.flatMap_cons, Item.marks, Mark.ofKind, Mark.net_append,
            Mark.net_cons, Mark.net_nil, Mark.change]
          omega
      | whitespace | integer | string | atom => exact ih h

theorem net_of_parse {r : Reader} {source : String} {p : Program} (h : r.parse source = .ok p) :
    .stray ∉ Text.marks source.toList ∧ Mark.net (Text.marks source.toList) = 0 := by
  have hpass := net_of_flatPass (flatPass_of_parse_eq_ok h)
  rw [Text.marks_itemsFrom] at hpass
  simpa using hpass

/-- A source without stray text that opens more lists than it closes, or fewer, has a fault of
nesting. -/
theorem exists_isNesting_of_net {r : Reader} {source : String}
    (hs : .stray ∉ Text.marks source.toList) (hn : Mark.net (Text.marks source.toList) ≠ 0) :
    ∃ err, r.parse source = .error err ∧ err.IsNesting := by
  cases h : r.parse source with
  | ok p => exact absurd (net_of_parse h).2 hn
  | error err =>
    refine ⟨err, rfl, ?_⟩
    cases reportable_of_parse h with
    | lex he =>
      rw [Tokenizer.nonblank_items] at he
      rw [← Text.marks_itemsFrom 0] at hs
      exact absurd (List.mem_flatMap.2 ⟨_, he, List.mem_singleton_self _⟩) hs
    | unexpected _ _ | tooDeep _ _ | unterminated _ _ | unterminatedBefore _ => trivial

end Reader

/-! ## Edits -/

/-- A source with other text in the place of a span. -/
def Span.replace (s : Span) (new source : String) : String :=
  (⟨0, s.start⟩ : Span).slice source ++ new ++ (⟨s.stop, source.utf8ByteSize⟩ : Span).slice source

theorem Span.toList_replace {source : String} {before text after : List Char}
    (h : source.toList = before ++ (text ++ after)) (new : String) :
    ((⟨Text.byteSize before, Text.byteSize before + Text.byteSize text⟩ : Span).replace new
      source).toList = before ++ (new.toList ++ after) := by
  have hfront : source.toList = [] ++ (before ++ (text ++ after)) := h
  have hback : source.toList = (before ++ text) ++ (after ++ []) := by simp [h]
  have hsize : source.utf8ByteSize =
      Text.byteSize (before ++ text) + Text.byteSize after := by
    rw [← Text.byteSize_append, List.append_assoc, ← h, Text.byteSize_eq_utf8ByteSize,
      String.ofList_toList]
  have hfirst := slice_eq hfront
  have hlast := slice_eq hback
  rw [Text.byteSize, Nat.zero_add] at hfirst
  unfold replace
  rw [hsize]
  rw [Text.byteSize_append] at hlast ⊢
  rw [hfirst, hlast]
  simp

namespace Reader

/-- A parenthesis of a program stands for itself: with any other number of copies in its place, the
source has a fault of nesting. -/
theorem exists_isNesting_of_replace {r : Reader} {source : String} {p : Program}
    (h : r.parse source = .ok p) {t : Token} (ht : .token t ∈ r.tokenizer.items source)
    (hk : t.kind = .lparen ∨ t.kind = .rparen) {n : Nat} (hn : n ≠ 1) :
    ∃ err, r.parse (t.span.replace (String.join (List.replicate n t.text)) source) = .error err ∧
      err.IsNesting := by
  obtain ⟨hclean, hnet⟩ := net_of_parse h
  obtain ⟨before, l, after, hls, hi⟩ := Lexeme.mem_place (List.mem_filter.1 ht).1
  obtain ⟨hkind, htext⟩ := Lexeme.of_token_eq_itemAt hi
  have hsrc : source.toList =
      before.flatMap Lexeme.text ++ (l.text ++ after.flatMap Lexeme.text) := by
    rw [← List.flatMap_cons, ← List.flatMap_append, ← hls, Lexeme.flatMap_text_ofText]
  have hspan : t.span = _ := (congrArg Item.span hi).trans (Lexeme.span_itemAt l _)
  rw [Nat.zero_add] at hspan
  -- the edited source is put together from lexemes of the source
  let ls := before ++ (List.replicate n l ++ after)
  have hedit : (t.span.replace (String.join (List.replicate n t.text)) source).toList =
      ls.flatMap Lexeme.text := by
    rw [hspan, Span.toList_replace hsrc, String.toList_join, htext, List.flatMap_append,
      List.flatMap_append, List.flatMap_replicate, List.flatMap_replicate, String.toList_ofList]
  have hsub : ls ⊆ Lexeme.ofText source.toList := by
    intro x hx
    rw [hls]
    simp only [ls, List.mem_append, List.mem_replicate] at hx
    rcases hx with hx | ⟨-, rfl⟩ | hx
    · exact List.mem_append_left _ hx
    · exact List.mem_append_right _ (List.mem_cons_self ..)
    · exact List.mem_append_right _ (List.mem_cons_of_mem _ hx)
  have hmarks := Text.marks_flatMap hclean hsub
  rw [← hedit] at hmarks
  apply exists_isNesting_of_net
  · rw [hmarks, List.mem_flatMap]
    rintro ⟨x, hx, hm⟩
    exact hclean (List.mem_flatMap.2 ⟨x, hsub hx, hm⟩)
  · -- the parenthesis accounts for one of the lists, and its copies for `n` of them
    have hone := Lexeme.net_marks_of_kind (l := l) (by rw [hkind]; simpa using hk)
    rw [Text.marks, hls, List.flatMap_append, List.flatMap_cons, Mark.net_append,
      Mark.net_append] at hnet
    rw [hmarks, List.flatMap_append, List.flatMap_append, Mark.net_append, Mark.net_append,
      Lexeme.net_marks_replicate]
    rcases hone with hone | hone
    · rw [hone] at hnet ⊢
      omega
    · rw [hone] at hnet ⊢
      omega

/-- Parentheses that do not balance are never read. If any parenthesis of a program is taken out, or
another one is put beside it, the source is refused, and not for text that is no token. -/
theorem unbalanced_never_read {r : Reader} {source : String} {p : Program}
    (h : r.parse source = .ok p) {t : Token} (ht : .token t ∈ r.tokenizer.items source)
    (hk : t.kind = .lparen ∨ t.kind = .rparen) :
    (∃ err, r.parse (t.span.replace "" source) = .error err ∧ err.IsNesting) ∧
    ∃ err, r.parse (t.span.replace (t.text ++ t.text) source) = .error err ∧ err.IsNesting := by
  constructor
  · exact exists_isNesting_of_replace (n := 0) h ht hk (by decide)
  · have htwo : String.join (List.replicate 2 t.text) = t.text ++ t.text := by
      simp [List.replicate]
    rw [← htwo]
    exact exists_isNesting_of_replace h ht hk (by decide)

/-- Without the parenthesis between them, an atom and a numeral become one atom. The parenthesis in the
string is no token. -/
theorem unbalanced_never_read_glued :
    let r : Reader := { maxDepth := 2 }
    let source := "(a(1 b)\"(\")"
    let t : Token := ⟨.lparen, "(", ⟨2, 3⟩⟩
    r.parse source = .ok [.list [.atom "a", .list [.integer 1, .atom "b"], .string "("]] ∧
      .token t ∈ r.tokenizer.items source ∧ t.span.replace "" source = "(a1 b)\"(\")" ∧
      (∃ err, r.parse (t.span.replace "" source) = .error err ∧ err.IsNesting) ∧
      ∃ err, r.parse (t.span.replace (t.text ++ t.text) source) = .error err ∧ err.IsNesting := by
  intro r source t
  have h : r.parse source =
      .ok [.list [.atom "a", .list [.integer 1, .atom "b"], .string "("]] := by decide +kernel
  have ht : .token t ∈ r.tokenizer.items source := by decide +kernel
  exact ⟨h, ht, by decide +kernel, unbalanced_never_read h ht (.inl rfl)⟩

end Reader

end StackLisp
