/-
Reading undoes writing out. Expressions are written out as symbols: a leaf is one symbol, and a list
is its elements between two parentheses. A source reads as a program if and only if its items are
the symbols of that program, with blanks anywhere between them, and no expression of the program is
nested deeper than the limit. So the symbols of a source determine the program.
-/
import StackLisp.Proofs.Reading.Steps

namespace StackLisp

/-! ## Symbols -/

/-- What a token stands for. -/
inductive Symbol
  | lparen | rparen
  | atom (name : String)
  | integer (value : Int)
  | string (value : String)
deriving DecidableEq, Repr

/-- The expression that a symbol is by itself. -/
def Symbol.leaf? : Symbol → Option Expr
  | .lparen | .rparen => none
  | .atom name => some (.atom name)
  | .integer value => some (.integer value)
  | .string value => some (.string value)

/-- The kind of the tokens that a symbol is written as. -/
def Symbol.kind : Symbol → Token.Kind
  | .lparen => .lparen
  | .rparen => .rparen
  | .atom _ => .atom
  | .integer _ => .integer
  | .string _ => .string

/-- The symbol of a token, with its literal decoded. Blanks and malformed literals have none. -/
def Token.symbol? (t : Token) : Option Symbol :=
  match t.kind with
  | .whitespace => none
  | .lparen => some .lparen
  | .rparen => some .rparen
  | .atom => some (.atom t.text)
  | .integer =>
    match Literal.integer t.text with
    | .ok n => some (.integer n)
    | .error _ => none
  | .string =>
    match Literal.unescape t.text with
    | .ok value => some (.string value)
    | .error _ => none

def Item.symbol? : Item → Option Symbol
  | .token t => t.symbol?
  | .error _ => none

/-- The symbols of the items that are not blank, with a gap for each that has none. -/
def Item.symbols (items : List Item) : List (Option Symbol) := (nonblank items).map symbol?

namespace Expr

mutual

/-- An expression written out. -/
def flatten : Expr → List Symbol
  | .atom name => [.atom name]
  | .integer value => [.integer value]
  | .string value => [.string value]
  | .list es => .lparen :: (flattenAll es ++ [.rparen])

/-- Expressions written out side by side. -/
def flattenAll : List Expr → List Symbol
  | [] => []
  | e :: es => e.flatten ++ flattenAll es

end

theorem depthAll_le_iff {es : List Expr} {n : Nat} : depthAll es ≤ n ↔ ∀ e ∈ es, e.depth ≤ n := by
  induction es with
  | nil => simp [depthAll]
  | cons e es ih => rw [depthAll, Nat.max_le, ih, List.forall_mem_cons]

/-- An expression is a list or is written out as one symbol. -/
theorem list_or_flatten_eq (e : Expr) : (∃ es, e = .list es) ∨ ∃ s, e.flatten = [s] := by
  cases e with
  | list es => exact .inl ⟨es, rfl⟩
  | atom name => exact .inr ⟨_, rfl⟩
  | integer value => exact .inr ⟨_, rfl⟩
  | string value => exact .inr ⟨_, rfl⟩

theorem depth_of_flatten_eq {e : Expr} {s : Symbol} (h : e.flatten = [s]) : e.depth = 0 := by
  cases e with
  | list es => simp [flatten] at h
  | _ => rfl

theorem flattenAll_leaf {e : Expr} {s : Symbol} (h : e.flatten = [s]) (es : List Expr) :
    flattenAll (e :: es) = s :: flattenAll es := by
  rw [flattenAll, h, List.singleton_append]

theorem flattenAll_list (inner es : List Expr) :
    flattenAll (.list inner :: es) = .lparen :: (flattenAll inner ++ .rparen :: flattenAll es) := by
  rw [flattenAll, flatten, List.cons_append, List.append_assoc, List.singleton_append]

theorem flattenAll_eq_nil {es : List Expr} (h : flattenAll es = []) : es = [] := by
  cases es with
  | nil => rfl
  | cons e es =>
    obtain ⟨inner, rfl⟩ | ⟨s, he⟩ := e.list_or_flatten_eq
    · rw [flattenAll_list] at h; cases h
    · rw [flattenAll_leaf he] at h; cases h

end Expr

/-! ## The symbols of items -/

namespace Item

theorem symbols_error (e : LexError) (items : List Item) :
    symbols (.error e :: items) = none :: symbols items := rfl

theorem symbols_blank {t : Token} (ht : t.kind = .whitespace) (items : List Item) :
    symbols (.token t :: items) = symbols items := by
  rw [symbols, nonblank_blank ht, symbols]

theorem symbols_token {t : Token} (ht : t.kind ≠ .whitespace) (items : List Item) :
    symbols (.token t :: items) = t.symbol? :: symbols items := by
  rw [symbols, nonblank_token ht, List.map_cons, symbol?, symbols]

theorem not_mem_of_symbols {items : List Item} {l : List Symbol}
    (h : symbols items = l.map some) (e : LexError) : .error e ∉ items := by
  intro he
  have hn : none ∈ symbols items :=
    List.mem_map.2 ⟨.error e, List.mem_filter.2 ⟨he, rfl⟩, rfl⟩
  rw [h] at hn
  simp at hn

end Item

namespace Token

theorem symbol?_lparen {t : Token} (h : t.kind = .lparen) : t.symbol? = some .lparen := by
  simp only [symbol?, h]

theorem symbol?_rparen {t : Token} (h : t.kind = .rparen) : t.symbol? = some .rparen := by
  simp only [symbol?, h]

theorem kind_of_symbol? {t : Token} {s : Symbol} (h : t.symbol? = some s) : t.kind = s.kind := by
  unfold symbol? at h
  split at h
  · cases h
  · rename_i hk; cases h; exact hk
  · rename_i hk; cases h; exact hk
  · rename_i hk; cases h; exact hk
  · rename_i hk
    split at h
    · cases h; exact hk
    · cases h
  · rename_i hk
    split at h
    · cases h; exact hk
    · cases h

theorem kind_ne_of_symbol? {t : Token} {s : Symbol} (h : t.symbol? = some s) :
    t.kind ≠ .whitespace := by
  rw [kind_of_symbol? h]
  cases s <;> simp [Symbol.kind]

end Token

theorem Symbol.leaf?_eq_some_iff (s : Symbol) (e : Expr) :
    s.leaf? = some e ↔ e.flatten = [s] := by
  cases e with
  | list es => cases s <;> simp [leaf?, Expr.flatten]
  | atom name => cases s <;> simp [leaf?, Expr.flatten, eq_comm]
  | integer value => cases s <;> simp [leaf?, Expr.flatten, eq_comm]
  | string value => cases s <;> simp [leaf?, Expr.flatten, eq_comm]

/-- A token is a leaf if its symbol is the leaf written out. -/
theorem Reader.leaf_eq_ok_iff (t : Token) (e : Expr) :
    leaf t = .ok e ↔ ∃ s, t.symbol? = some s ∧ e.flatten = [s] := by
  simp only [← Symbol.leaf?_eq_some_iff]
  unfold leaf Token.symbol?
  cases hk : t.kind with
  | whitespace | lparen | rparen | atom => simp [Symbol.leaf?]
  | integer => cases Literal.integer t.text <;> simp [Symbol.leaf?]
  | string => cases Literal.unescape t.text <;> simp [Symbol.leaf?]

namespace Reader

/-- The symbols from the end of the innermost open list on, `tail` after its parenthesis. If no list
is open then the symbols end there. -/
def closing (stack : List Span) (tail : List (Option Symbol)) : List (Option Symbol) :=
  match stack with
  | [] => []
  | _ :: _ => some .rparen :: tail

/-! ## What has been read was written out -/

/-- Expressions that have been read are the symbols up to the end of the innermost open list, and fit
into the limit below the lists around them. -/
theorem symbols_of_read (limit : Nat) (stack : List Span) (items : List Item)
    (out : List Expr × List Item) (hl : stack.length ≤ limit)
    (h : read limit stack items = .ok out) :
    Item.symbols items = (Expr.flattenAll out.1).map some ++ closing stack (Item.symbols out.2) ∧
      stack.length + Expr.depthAll out.1 ≤ limit := by
  match items with
  | [] =>
    cases stack with
    | nil => rw [read_nil_top] at h; cases h; exact ⟨rfl, hl⟩
    | cons opening stack => rw [read_nil_list] at h; cases h
  | .error e :: items => rw [read_error] at h; cases h
  | .token t :: items =>
    cases t.role with
    | blank ht =>
      rw [read_blank limit stack ht] at h
      rw [Item.symbols_blank ht]
      exact symbols_of_read limit stack items out hl h
    | closing ht =>
      have hs := Token.symbol?_rparen ht
      cases stack with
      | nil => rw [read_closing_top limit ht] at h; cases h
      | cons opening stack =>
        rw [read_closing_list limit stack ht] at h
        cases h
        rw [Item.symbols_token (Token.kind_ne_of_symbol? hs), hs]
        exact ⟨rfl, hl⟩
    | opening ht =>
      by_cases hd : limit ≤ stack.length
      · rw [read_tooDeep limit stack ht hd] at h; cases h
      · have hs := Token.symbol?_lparen ht
        rw [read_opening limit stack ht (by omega)] at h
        obtain ⟨inner, hi, h⟩ := bind_eq_ok.1 h
        obtain ⟨more, hm, h⟩ := bind_eq_ok.1 h
        cases h
        have hlt : inner.2.length < items.length := length_lt_of_read hi
        -- the list was opened within the limit, so its elements fit one level further down
        obtain ⟨hsi, hdi⟩ := symbols_of_read limit (t.span :: stack) items inner
          (Nat.lt_of_not_le hd) hi
        obtain ⟨hsm, hdm⟩ := symbols_of_read limit stack inner.2 more hl hm
        rw [List.length_cons] at hdi
        refine ⟨?_, ?_⟩
        · rw [Item.symbols_token (Token.kind_ne_of_symbol? hs), hs, hsi, closing, hsm,
            Expr.flattenAll_list]
          simp
        · rw [Expr.depthAll, Expr.depth]
          omega
    | @leaf e ht =>
      obtain ⟨s, hs, he⟩ := (leaf_eq_ok_iff t e).1 ht
      rw [read_leaf limit stack ht] at h
      obtain ⟨more, hm, h⟩ := bind_eq_ok.1 h
      cases h
      obtain ⟨hsm, hdm⟩ := symbols_of_read limit stack items more hl hm
      refine ⟨?_, ?_⟩
      · rw [Item.symbols_token (Token.kind_ne_of_symbol? hs), hs, hsm, Expr.flattenAll_leaf he]
        rfl
      · rw [Expr.depthAll, Expr.depth_of_flatten_eq he]
        omega
    | malformed ht => rw [read_malformed limit stack ht] at h; cases h
termination_by items.length

/-! ## What was written out can be read -/

/-- Expressions that are written out up to the end of the innermost open list can be read if they fit
into the limit, and the items after that list are left. -/
theorem exists_read_of_symbols (limit : Nat) (stack : List Span) (items : List Item)
    (es : List Expr) (tail : List (Option Symbol))
    (h : Item.symbols items = (Expr.flattenAll es).map some ++ closing stack tail)
    (hd : stack.length + Expr.depthAll es ≤ limit) :
    ∃ rest, read limit stack items = .ok (es, rest) ∧
      closing stack (Item.symbols rest) = closing stack tail := by
  match items with
  | [] =>
    obtain ⟨hes, hc⟩ := List.append_eq_nil_iff.1 h.symm
    cases stack with
    | nil =>
      rw [Expr.flattenAll_eq_nil (List.map_eq_nil_iff.1 hes)]
      exact ⟨[], read_nil_top limit, rfl⟩
    | cons opening stack => cases hc
  | .error e :: items =>
    rw [Item.symbols_error] at h
    cases hl : Expr.flattenAll es with
    | nil => rw [hl] at h; cases stack <;> cases h
    | cons s l => rw [hl] at h; cases h
  | .token t :: items =>
    by_cases hb : t.kind = .whitespace
    · rw [Item.symbols_blank hb] at h
      rw [read_blank limit stack hb]
      exact exists_read_of_symbols limit stack items es tail h hd
    rw [Item.symbols_token hb] at h
    cases es with
    | nil =>
      cases stack with
      | nil => cases h
      | cons opening stack =>
        obtain ⟨hs, htail⟩ := List.cons.inj h
        have ht : t.kind = .rparen := Token.kind_of_symbol? hs
        exact ⟨items, read_closing_list limit stack ht opening items, congrArg _ htail⟩
    | cons e es =>
      rw [Expr.depthAll] at hd
      obtain ⟨inner, rfl⟩ | ⟨s, he⟩ := e.list_or_flatten_eq
      · rw [Expr.flattenAll_list, List.map_cons, List.map_append, List.cons_append,
          List.append_assoc, List.map_cons, List.cons_append] at h
        rw [Expr.depth] at hd
        obtain ⟨hs, h⟩ := List.cons.inj h
        have ht : t.kind = .lparen := Token.kind_of_symbol? hs
        -- the list that the token opens, and after its parenthesis the rest of the expressions
        obtain ⟨rest, hi, hc⟩ := exists_read_of_symbols limit (t.span :: stack) items inner _ h
          (by rw [List.length_cons]; omega)
        have hr := (List.cons.inj hc).2
        have hlt : rest.length < items.length := length_lt_of_read hi
        obtain ⟨rest', hm, hc'⟩ := exists_read_of_symbols limit stack rest es tail hr (by omega)
        refine ⟨rest', ?_, hc'⟩
        rw [read_opening limit stack ht (by omega), bind_eq_ok]
        refine ⟨_, hi, ?_⟩
        rw [bind_eq_ok]
        exact ⟨_, hm, rfl⟩
      · rw [Expr.flattenAll_leaf he, List.map_cons, List.cons_append] at h
        obtain ⟨hs, h⟩ := List.cons.inj h
        have ht := (leaf_eq_ok_iff t e).2 ⟨s, hs, he⟩
        obtain ⟨rest, hm, hc⟩ := exists_read_of_symbols limit stack items es tail h (by omega)
        refine ⟨rest, ?_, hc⟩
        rw [read_leaf limit stack ht, bind_eq_ok]
        exact ⟨_, hm, rfl⟩
termination_by items.length

/-- Items read as a program if and only if they are the program written out, and it fits into the
limit. -/
theorem program_eq_ok_iff (limit : Nat) (items : List Item) (p : Program) :
    program limit items = .ok p ↔
      Item.symbols items = (Expr.flattenAll p).map some ∧ Expr.depthAll p ≤ limit := by
  constructor
  · intro h
    have hr : read limit [] items = .ok (p, []) := by rw [read, h]; rfl
    obtain ⟨hs, hd⟩ := symbols_of_read limit [] items _ (Nat.zero_le _) hr
    exact ⟨by rwa [closing, List.append_nil] at hs, by simpa using hd⟩
  · rintro ⟨hs, hd⟩
    obtain ⟨rest, hr, -⟩ := exists_read_of_symbols limit [] items p []
      (by rw [hs, closing, List.append_nil]) (by simpa using hd)
    rw [read] at hr
    cases hp : program limit items with
    | error e => rw [hp] at hr; cases hr
    | ok q => rw [hp] at hr; cases hr; rfl

/-- A source reads as a program if and only if it has no lexical error, its tokens other than blanks
are, with their literals decoded, the program written out, and no expression of the program is
nested deeper than the limit. -/
theorem parse_eq_ok_iff_flatten (r : Reader) (source : String) (p : Program) :
    r.parse source = .ok p ↔
      (∀ e, Item.error e ∉ r.tokenizer.items source) ∧
      Item.symbols (r.tokenizer.items source) = (Expr.flattenAll p).map some ∧
      ∀ e ∈ p, e.depth ≤ r.maxDepth := by
  unfold parse
  rw [program_eq_ok_iff, Expr.depthAll_le_iff]
  constructor
  · rintro ⟨hs, hd⟩; exact ⟨Item.not_mem_of_symbols hs, hs, hd⟩
  · rintro ⟨-, hs, hd⟩; exact ⟨hs, hd⟩

end Reader

end StackLisp
