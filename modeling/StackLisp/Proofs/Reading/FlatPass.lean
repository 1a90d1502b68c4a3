/-
Faults of sources, found without trees. A single pass over the items from the left keeps the
parentheses that are open, the innermost first, and stops at the first item that cannot stand where
it stands. Reading by recursion fails if and only if the pass does, and with the same error.
-/
import StackLisp.Proofs.Reading.Steps
import StackLisp.Proofs.Token.Decoding

namespace StackLisp.Reader

/-! ## The pass -/

/-- The first fault among some items, none of them blank, when the lists at `stack` are open. -/
def flatPass (limit : Nat) (stack : List Span) : List Item → Option ParseError
  | [] =>
    match stack with
    | [] => none
    | opening :: _ => some (.unterminated opening)
  | .error e :: _ => some (.lex e)
  | .token t :: items =>
    match t.kind with
    | .lparen =>
      if limit ≤ stack.length then some (.tooDeep limit t.span)
      else flatPass limit (t.span :: stack) items
    | .rparen =>
      match stack with
      | [] => some (.unexpected .rparen t.span)
      | _ :: stack => flatPass limit stack items
    | .whitespace | .integer | .string | .atom => flatPass limit stack items

section Pass

variable (limit : Nat)

theorem flatPass_error (stack : List Span) (e : LexError) (items : List Item) :
    flatPass limit stack (.error e :: items) = some (.lex e) := by
  rw [flatPass.eq_def]

theorem flatPass_tooDeep {stack : List Span} {t : Token} (ht : t.kind = .lparen)
    (hd : limit ≤ stack.length) (items : List Item) :
    flatPass limit stack (.token t :: items) = some (.tooDeep limit t.span) := by
  rw [flatPass.eq_def]
  simp only [ht, if_pos hd]

theorem flatPass_opening {stack : List Span} {t : Token} (ht : t.kind = .lparen)
    (hd : stack.length < limit) (items : List Item) :
    flatPass limit stack (.token t :: items) = flatPass limit (t.span :: stack) items := by
  rw [flatPass.eq_def]
  simp only [ht, if_neg (Nat.not_le_of_lt hd)]

theorem flatPass_unexpected {t : Token} (ht : t.kind = .rparen) (items : List Item) :
    flatPass limit [] (.token t :: items) = some (.unexpected .rparen t.span) := by
  rw [flatPass.eq_def]
  simp only [ht]

theorem flatPass_closing {t : Token} (ht : t.kind = .rparen) (opening : Span) (stack : List Span)
    (items : List Item) :
    flatPass limit (opening :: stack) (.token t :: items) = flatPass limit stack items := by
  rw [flatPass.eq_def]
  simp only [ht]

theorem flatPass_leaf {t : Token} {e : Expr} (ht : leaf t = .ok e) (stack : List Span)
    (items : List Item) :
    flatPass limit stack (.token t :: items) = flatPass limit stack items := by
  rw [flatPass.eq_def]
  obtain hk | hk | hk := kind_of_leaf (t := t) (by simp [ht])
  all_goals simp only [hk]

end Pass

/-! ## Reading follows the pass -/

/-- Items whose literals can be decoded. -/
def Decodable (items : List Item) : Prop :=
  ∀ t, .token t ∈ items → ∀ fault, leaf t ≠ .error (.lex ⟨fault, t.span⟩)

theorem Decodable.suffix {items rest : List Item} (h : Decodable items) (hs : rest <:+ items) :
    Decodable rest :=
  fun t ht => h t (hs.subset ht)

/-- Reading inside the open lists fails as the pass does, or brings the pass to where the innermost
list is closed. -/
theorem flatPass_eq_read (limit : Nat) (stack : List Span) (items : List Item)
    (hdec : Decodable items) :
    flatPass limit stack (Item.nonblank items) =
      match read limit stack items with
      | .error err => some err
      | .ok out => flatPass limit stack.tail (Item.nonblank out.2) := by
  match items with
  | [] =>
    cases stack with
    | nil => rw [read_nil_top]; rfl
    | cons opening stack => rw [read_nil_list]; rfl
  | .error e :: items => rw [read_error, Item.nonblank_error, flatPass_error]
  | .token t :: items =>
    have hdec' : Decodable items := hdec.suffix (List.suffix_cons _ _)
    cases t.role with
    | blank ht =>
      rw [read_blank limit stack ht, Item.nonblank_blank ht]
      exact flatPass_eq_read limit stack items hdec'
    | closing ht =>
      rw [Item.nonblank_token (by simp [ht])]
      cases stack with
      | nil => rw [read_closing_top limit ht, flatPass_unexpected limit ht]
      | cons opening stack =>
        rw [read_closing_list limit stack ht, flatPass_closing limit ht, List.tail_cons]
    | opening ht =>
      rw [Item.nonblank_token (by simp [ht])]
      by_cases hd : limit ≤ stack.length
      · rw [read_tooDeep limit stack ht hd, flatPass_tooDeep limit ht hd]
      · have hd' : stack.length < limit := Nat.lt_of_not_le hd
        rw [read_opening limit stack ht hd', flatPass_opening limit ht hd',
          flatPass_eq_read limit (t.span :: stack) items hdec']
        -- the pass goes through the inner list and then through what follows it
        cases hi : read limit (t.span :: stack) items with
        | error err => rfl
        | ok inner =>
          have hlt : inner.2.length < items.length := length_lt_of_read hi
          have hs := suffix_of_read limit (t.span :: stack) items inner hi
          simp only [bind, Except.bind, List.tail_cons]
          rw [flatPass_eq_read limit stack inner.2 (hdec'.suffix hs)]
          cases read limit stack inner.2 <;> rfl
    | leaf ht =>
      rw [read_leaf limit stack ht, Item.nonblank_token (kind_ne_of_leaf ht), flatPass_leaf limit ht,
        flatPass_eq_read limit stack items hdec']
      cases read limit stack items <;> rfl
    | malformed ht => exact absurd ht (hdec t (List.mem_cons_self ..) _)
termination_by items.length

/-- Reading a program fails as the pass does. -/
theorem flatPass_eq_program (limit : Nat) (items : List Item) (hdec : Decodable items) :
    flatPass limit [] (Item.nonblank items) =
      match program limit items with
      | .error err => some err
      | .ok _ => none := by
  rw [flatPass_eq_read limit [] items hdec, read]
  cases program limit items <;> rfl

/-! ## The errors of sources -/

theorem decodable_items (t : Tokenizer) (source : String) : Decodable (t.items source) := by
  intro tok htok fault h
  obtain hk | hk | hk := kind_of_leaf (t := tok) (by simp [h])
  · unfold leaf at h
    rw [hk] at h
    cases h
  · obtain ⟨n, hn⟩ := Tokenizer.exists_integer_of_mem_items htok hk
    unfold leaf at h
    simp only [hk, hn] at h
    cases h
  · obtain ⟨value, hv⟩ := Tokenizer.exists_string_of_mem_items htok hk
    unfold leaf at h
    simp only [hk, hv] at h
    cases h

/-- Reading a source fails as the pass over its items other than blanks does. -/
theorem parse_eq_error_iff_nonblank (r : Reader) (source : String) (err : ParseError) :
    r.parse source = .error err ↔
      flatPass r.maxDepth [] (Item.nonblank (r.tokenizer.items source)) = some err := by
  rw [flatPass_eq_program r.maxDepth _ (decodable_items r.tokenizer source), parse]
  cases program r.maxDepth (r.tokenizer.items source) <;> simp

/-- The errors that a pass can report: each is about one of the items, or about a list that was open
from the start. -/
inductive Reportable (limit : Nat) (stack : List Span) (items : List Item) : ParseError → Prop
  | lex {e : LexError} : .error e ∈ items → Reportable limit stack items (.lex e)
  | unexpected {t : Token} : .token t ∈ items → t.kind = .rparen →
      Reportable limit stack items (.unexpected .rparen t.span)
  | tooDeep {t : Token} : .token t ∈ items → t.kind = .lparen →
      Reportable limit stack items (.tooDeep limit t.span)
  | unterminated {t : Token} : .token t ∈ items → t.kind = .lparen →
      Reportable limit stack items (.unterminated t.span)
  | unterminatedBefore {opening : Span} : opening ∈ stack →
      Reportable limit stack items (.unterminated opening)

/-- More items make more errors possible; a list that is no longer open from the start has to be
opened by one of them. -/
theorem Reportable.mono {limit : Nat} {stack stack' : List Span} {items items' : List Item}
    {err : ParseError} (h : Reportable limit stack items err) (hi : items ⊆ items')
    (hs : ∀ s ∈ stack, s ∈ stack' ∨ ∃ t, .token t ∈ items' ∧ t.kind = .lparen ∧ t.span = s) :
    Reportable limit stack' items' err := by
  cases h with
  | lex he => exact .lex (hi he)
  | unexpected ht hk => exact .unexpected (hi ht) hk
  | tooDeep ht hk => exact .tooDeep (hi ht) hk
  | unterminated ht hk => exact .unterminated (hi ht) hk
  | unterminatedBefore ho =>
    obtain ho | ⟨t, ht, hk, rfl⟩ := hs _ ho
    · exact .unterminatedBefore ho
    · exact .unterminated ht hk

theorem reportable_of_flatPass (limit : Nat) (items : List Item) : ∀ (stack : List Span)
    {err : ParseError}, flatPass limit stack items = some err → Reportable limit stack items err := by
  induction items with
  | nil =>
    intro stack err h
    cases stack with
    | nil => cases h
    | cons opening stack => cases h; exact .unterminatedBefore (List.mem_cons_self ..)
  | cons i items ih =>
    intro stack err h
    have hi : items ⊆ i :: items := List.subset_cons_self ..
    cases i with
    | error e => cases h; exact .lex (List.mem_cons_self ..)
    | token t =>
      rw [flatPass.eq_def] at h
      simp only at h
      split at h
      · rename_i hk
        split at h
        · cases h; exact .tooDeep (List.mem_cons_self ..) hk
        · refine (ih _ h).mono hi fun s hs => ?_
          -- a list found open later on is the one opened here, or was open before
          rcases List.mem_cons.1 hs with rfl | hs
          · exact .inr ⟨t, List.mem_cons_self .., hk, rfl⟩
          · exact .inl hs
      · rename_i hk
        split at h
        · cases h; exact .unexpected (List.mem_cons_self ..) hk
        · exact (ih _ h).mono hi fun s hs => .inl (List.mem_cons_of_mem _ hs)
      all_goals exact (ih _ h).mono hi fun s hs => .inl hs

theorem reportable_of_parse {r : Reader} {source : String} {err : ParseError}
    (h : r.parse source = .error err) :
    Reportable r.maxDepth [] (Item.nonblank (r.tokenizer.items source)) err :=
  reportable_of_flatPass _ _ _ ((parse_eq_error_iff_nonblank r source err).1 h)

/-- A lexical error of a source is stray text, never a literal that cannot be decoded. -/
theorem fault_of_parse {r : Reader} {source : String} {e : LexError}
    (h : r.parse source = .error (.lex e)) : e.fault = .unrecognized := by
  cases reportable_of_parse h with
  | lex he => exact Tokenizer.fault_of_mem_items (List.mem_filter.1 he).1

/-- Reading a source fails if and only if the pass over its items other than blanks does, and with the
same error. No other token than a closing parenthesis is unexpected, and no other lexical error is
reported than stray text. -/
theorem parse_eq_error_iff_flatPass (r : Reader) (source : String) :
    (∀ err, r.parse source = .error err ↔
      flatPass r.maxDepth [] (Item.nonblank (r.tokenizer.items source)) = some err) ∧
    (∀ kind span, r.parse source = .error (.unexpected kind span) → kind = .rparen) ∧
    ∀ e, r.parse source = .error (.lex e) → e.fault = .unrecognized := by
  refine ⟨parse_eq_error_iff_nonblank r source, fun kind span h => ?_, fun e h => fault_of_parse h⟩
  cases reportable_of_parse h with
  | unexpected _ _ => rfl

end StackLisp.Reader
