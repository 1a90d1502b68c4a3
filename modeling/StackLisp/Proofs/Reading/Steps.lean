/-
Reading, item by item. The elements of a list and the expressions of a program are read in the same
way: what stands in no list ends with the items, what stands in a list ends at the parenthesis that
closes it. A token is blank, opens or closes a list, is a leaf, or is a literal that cannot be
decoded, and there is one equation for each.
-/
import StackLisp.Expr.Reader

namespace StackLisp

/-! ## Items that are not blank -/

namespace Item

def nonblank (items : List Item) : List Item := items.filter fun i => !i.isWhitespace

theorem nonblank_error (e : LexError) (items : List Item) :
    nonblank (.error e :: items) = .error e :: nonblank items := rfl

theorem nonblank_blank {t : Token} (ht : t.kind = .whitespace) (items : List Item) :
    nonblank (.token t :: items) = nonblank items := by
  simp [nonblank, isWhitespace, ht]

theorem nonblank_token {t : Token} (ht : t.kind ≠ .whitespace) (items : List Item) :
    nonblank (.token t :: items) = .token t :: nonblank items := by
  simp [nonblank, isWhitespace, ht]

end Item

/-! ## The part that a token plays -/

/-- What a token is to the reader. -/
inductive Token.Role (t : Token) : Prop
  | blank : t.kind = .whitespace → Role t
  | opening : t.kind = .lparen → Role t
  | closing : t.kind = .rparen → Role t
  | leaf {e : Expr} : Reader.leaf t = .ok e → Role t
  | malformed {fault : LexFault} : Reader.leaf t = .error (.lex ⟨fault, t.span⟩) → Role t

theorem Token.role (t : Token) : t.Role := by
  cases hk : t.kind with
  | whitespace => exact .blank hk
  | lparen => exact .opening hk
  | rparen => exact .closing hk
  | atom => exact .leaf (by unfold Reader.leaf; rw [hk])
  | integer =>
    cases hl : Literal.integer t.text with
    | ok n => exact .leaf (by unfold Reader.leaf; simp only [hk, hl]; rfl)
    | error fault => exact .malformed (by unfold Reader.leaf; simp only [hk, hl]; rfl)
  | string =>
    cases hl : Literal.unescape t.text with
    | ok n => exact .leaf (by unfold Reader.leaf; simp only [hk, hl]; rfl)
    | error fault => exact .malformed (by unfold Reader.leaf; simp only [hk, hl]; rfl)

namespace Reader

/-- The kinds of tokens that can be leaves. -/
theorem kind_of_leaf {t : Token} (h : leaf t ≠ .error (.unexpected t.kind t.span)) :
    t.kind = .atom ∨ t.kind = .integer ∨ t.kind = .string := by
  unfold leaf at h
  cases hk : t.kind with
  | atom => exact .inl rfl
  | integer => exact .inr (.inl rfl)
  | string => exact .inr (.inr rfl)
  | whitespace | lparen | rparen => simp only [hk, ne_eq, not_true_eq_false] at h

theorem kind_ne_of_leaf {t : Token} {e : Expr} (h : leaf t = .ok e) : t.kind ≠ .whitespace := by
  obtain hk | hk | hk := kind_of_leaf (t := t) (by simp [h]) <;> rw [hk] <;> decide

theorem bind_eq_ok {ε α β : Type} {x : Except ε α} {f : α → Except ε β} {b : β} :
    x >>= f = .ok b ↔ ∃ a, x = .ok a ∧ f a = .ok b := by
  constructor
  · intro h
    cases x with
    | error e => cases h
    | ok a => exact ⟨a, rfl, h⟩
  · rintro ⟨a, rfl, h⟩
    exact h

/-! ## Inside open lists -/

/-- Reads on inside the lists that were opened at `stack`, the innermost first, to the end of the
innermost one; or to the end of the items if no list is open. Gives the expressions up to there and
the items after them. -/
def read (limit : Nat) (stack : List Span) (items : List Item) :
    Except ParseError (List Expr × List Item) :=
  match stack with
  | [] => (program limit items).map fun p => (p, [])
  | opening :: stack =>
    (elements limit (stack.length + 1) opening items).map fun out => (out.exprs, out.rest)

section Equations

variable (limit : Nat) (stack : List Span)

theorem read_nil_top : read limit [] [] = .ok ([], []) := by
  rw [read, program]
  rfl

theorem read_nil_list (opening : Span) :
    read limit (opening :: stack) [] = .error (.unterminated opening) := by
  rw [read, elements]
  rfl

theorem read_error (e : LexError) (items : List Item) :
    read limit stack (.error e :: items) = .error (.lex e) := by
  cases stack with
  | nil => rw [read, program]; rfl
  | cons opening stack => rw [read, elements]; rfl

theorem read_blank {t : Token} (ht : t.kind = .whitespace) (items : List Item) :
    read limit stack (.token t :: items) = read limit stack items := by
  cases stack with
  | nil =>
    simp only [read]
    rw [program]
    simp only [ht]
  | cons opening stack =>
    simp only [read]
    rw [elements]
    simp only [ht]
    cases elements limit (stack.length + 1) opening items <;> rfl

theorem read_closing_top {t : Token} (ht : t.kind = .rparen) (items : List Item) :
    read limit [] (.token t :: items) = .error (.unexpected .rparen t.span) := by
  rw [read, program]
  simp only [ht, leaf]
  rfl

theorem read_closing_list {t : Token} (ht : t.kind = .rparen) (opening : Span)
    (items : List Item) : read limit (opening :: stack) (.token t :: items) = .ok ([], items) := by
  rw [read, elements]
  simp only [ht]
  rfl

theorem read_tooDeep {t : Token} (ht : t.kind = .lparen) (hd : limit ≤ stack.length)
    (items : List Item) :
    read limit stack (.token t :: items) = .error (.tooDeep limit t.span) := by
  cases stack with
  | nil =>
    rw [read, program]
    simp only [ht, if_pos (Nat.le_zero.1 hd)]
    rfl
  | cons opening stack =>
    have hd' : limit ≤ stack.length + 1 := hd
    rw [read, elements]
    simp only [ht, if_pos hd']
    rfl

theorem read_opening {t : Token} (ht : t.kind = .lparen) (hd : stack.length < limit)
    (items : List Item) :
    read limit stack (.token t :: items) = (do
      let inner ← read limit (t.span :: stack) items
      let more ← read limit stack inner.2
      return (.list inner.1 :: more.1, more.2)) := by
  cases stack with
  | nil =>
    have hd' : limit ≠ 0 := Nat.ne_of_gt hd
    simp only [read]
    rw [program]
    simp only [ht, if_neg hd']
    cases elements limit 1 t.span items with
    | error e => rfl
    | ok inner =>
      simp only [Except.map, bind, Except.bind]
      cases program limit inner.rest <;> rfl
  | cons opening stack =>
    have hd' : ¬ limit ≤ stack.length + 1 := Nat.not_le_of_lt hd
    simp only [read]
    rw [elements]
    simp only [ht, if_neg hd']
    cases elements limit (stack.length + 1 + 1) t.span items with
    | error e => rfl
    | ok inner =>
      simp only [Except.map, bind, Except.bind]
      cases elements limit (stack.length + 1) opening inner.rest <;> rfl

theorem read_leaf {t : Token} {e : Expr} (ht : leaf t = .ok e) (items : List Item) :
    read limit stack (.token t :: items) = (do
      let more ← read limit stack items
      return (e :: more.1, more.2)) := by
  have hk := kind_of_leaf (t := t) (by simp [ht])
  cases stack with
  | nil =>
    simp only [read]
    rw [program]
    obtain hk | hk | hk := hk
    all_goals
      simp only [hk, ht]
      cases program limit items <;> rfl
  | cons opening stack =>
    simp only [read]
    rw [elements]
    obtain hk | hk | hk := hk
    all_goals
      simp only [hk, ht]
      cases elements limit (stack.length + 1) opening items <;> rfl

theorem read_malformed {t : Token} {fault : LexFault}
    (ht : leaf t = .error (.lex ⟨fault, t.span⟩)) (items : List Item) :
    read limit stack (.token t :: items) = .error (.lex ⟨fault, t.span⟩) := by
  have hk := kind_of_leaf (t := t) (by simp [ht])
  cases stack with
  | nil =>
    rw [read, program]
    obtain hk | hk | hk := hk
    all_goals simp only [hk, ht]; rfl
  | cons opening stack =>
    rw [read, elements]
    obtain hk | hk | hk := hk
    all_goals simp only [hk, ht]; rfl

end Equations

/-! ## What is left -/

theorem length_lt_of_read {limit : Nat} {opening : Span} {stack : List Span} {items : List Item}
    {out : List Expr × List Item} (h : read limit (opening :: stack) items = .ok out) :
    out.2.length < items.length := by
  rw [read] at h
  cases he : elements limit (stack.length + 1) opening items with
  | error e => rw [he] at h; cases h
  | ok m => rw [he] at h; cases h; exact m.shorter

/-- What is left after reading is the end of the items. -/
theorem suffix_of_read (limit : Nat) (stack : List Span) (items : List Item)
    (out : List Expr × List Item) (h : read limit stack items = .ok out) : out.2 <:+ items := by
  match items with
  | [] =>
    cases stack with
    | nil => rw [read_nil_top] at h; cases h; exact List.suffix_rfl
    | cons opening stack => rw [read_nil_list] at h; cases h
  | .error e :: items => rw [read_error] at h; cases h
  | .token t :: items =>
    refine List.IsSuffix.trans ?_ (List.suffix_cons _ _)
    cases t.role with
    | blank ht => rw [read_blank limit stack ht] at h; exact suffix_of_read limit stack items out h
    | closing ht =>
      cases stack with
      | nil => rw [read_closing_top limit ht] at h; cases h
      | cons opening stack =>
        rw [read_closing_list limit stack ht] at h
        cases h
        exact List.suffix_rfl
    | opening ht =>
      by_cases hd : limit ≤ stack.length
      · rw [read_tooDeep limit stack ht hd] at h; cases h
      · rw [read_opening limit stack ht (by omega)] at h
        obtain ⟨inner, hi, h⟩ := bind_eq_ok.1 h
        obtain ⟨more, hm, h⟩ := bind_eq_ok.1 h
        cases h
        have hlt : inner.2.length < items.length := length_lt_of_read hi
        have hsi := suffix_of_read limit (t.span :: stack) items inner hi
        exact (suffix_of_read limit stack inner.2 more hm).trans hsi
    | leaf ht =>
      rw [read_leaf limit stack ht] at h
      obtain ⟨more, hm, h⟩ := bind_eq_ok.1 h
      cases h
      exact suffix_of_read limit stack items more hm
    | malformed ht => rw [read_malformed limit stack ht] at h; cases h
termination_by items.length

end Reader

end StackLisp
