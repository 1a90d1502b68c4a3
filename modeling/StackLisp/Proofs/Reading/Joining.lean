/-
Sources joined by a line feed. No token and no stray text goes on over a line feed except a run of
blanks, which is not read anyway. So the items of the joined source are those of the first part and,
moved behind the line feed, those of the second.

Main statement: if the first part reads as a program, the second part is read as if it stood alone,
with its errors moved; and an error of the first part stays what it is, unless the error is a list
left open, which the second part could close.
-/
import StackLisp.Proofs.Reading.FlatPass
import StackLisp.Proofs.Reading.RoundTrip
import StackLisp.Proofs.Token.Tiling

namespace StackLisp

/-! ## No lexeme goes on over a line feed -/

namespace Lexeme

variable (t : List Char)

theorem takeWhile_append_newline {p : Char → Bool} (hp : p '\n' = false) (r : List Char) :
    (r ++ '\n' :: t).takeWhile p = r.takeWhile p ∧
      (r ++ '\n' :: t).dropWhile p = r.dropWhile p ++ '\n' :: t := by
  induction r with
  | nil => simp [hp]
  | cons c r ih => by_cases hc : p c = true <;> simp [hc, ih]

/-- String units end at a line feed, and a backslash before it escapes nothing. -/
theorem stringUnits_append_newline (r : List Char) :
    stringUnits (r ++ '\n' :: t) = ((stringUnits r).1, (stringUnits r).2 ++ '\n' :: t) := by
  fun_induction stringUnits r with
  | case1 c r hc units ih =>
    rw [List.cons_append, List.cons_append, stringUnits_escaped _ hc, ih]
  | case2 c r hc => rw [List.cons_append, List.cons_append, stringUnits, if_neg hc]
  | case3 c r hr hc units ih => rw [List.cons_append, stringUnits_plain _ hc, ih]
  | case4 c r hr hc =>
    rw [List.cons_append]
    -- a backslash can only stop the units here as the last character before the line feed
    by_cases hb : c = '\\'
    · cases r with
      | nil => rw [hb]; rfl
      | cons d r => exact absurd rfl (hr d r hb)
    · rw [stringUnits, if_neg hc]
      intro _ _ h _
      exact hb h
  | case5 => cases t <;> rfl

theorem ofUnits_append_newline (units : List Char × List Char) :
    ofUnits (units.1, units.2 ++ '\n' :: t) = ((ofUnits units).1, (ofUnits units).2 ++ '\n' :: t) := by
  obtain ⟨text, rest⟩ := units
  cases rest with
  | nil => rfl
  | cons d rest =>
    by_cases hd : d = '"'
    · rw [hd]
      rfl
    · simp [ofUnits, hd]

theorem first_append_newline {c : Char} (hc : Text.isBlank c = false) (r : List Char) :
    first c (r ++ '\n' :: t) = ((first c r).1, (first c r).2 ++ '\n' :: t) := by
  cases start c with
  | blank hb => rw [hc] at hb; cases hb
  | lparen | rparen | zero => rfl
  | digit hd h0 =>
    obtain ⟨ht, hd'⟩ := takeWhile_append_newline t (p := Char.isDigit) rfl r
    rw [first_digit _ hd h0, first_digit _ hd h0, ht, hd']
  | atom ha =>
    obtain ⟨ht, hd'⟩ := takeWhile_append_newline t (p := isAtomChar) rfl r
    rw [first_atomStart _ ha, first_atomStart _ ha, ht, hd']
  | quote =>
    rw [first_quote, first_quote, stringUnits_append_newline, ofUnits_append_newline]
  | stray _ hf => rw [hf, hf]

end Lexeme

/-- The items of two texts with a line feed between them. -/
theorem Text.itemsFrom_append_newline (start : Nat) (s t : List Char) :
    itemsFrom start (s ++ '\n' :: t) = itemsFrom start s ++ itemsFrom (start + byteSize s + 1) t := by
  induction hn : s.length using Nat.strongRecOn generalizing start s with
  | ind n ih =>
    subst hn
    cases s with
    | nil =>
      rw [itemsFrom_nil]
      exact itemsFrom_blank start rfl t
    | cons c r =>
      rw [List.cons_append]
      -- blanks go one by one, since the run that ends the first part may go on behind the line feed
      cases hc : isBlank c with
      | true =>
        rw [itemsFrom_blank start hc, itemsFrom_blank start hc, byteSize, ← Nat.add_assoc start]
        exact ih r.length (Nat.lt_succ_self _) _ r rfl
      | false =>
        have hsize : byteSize (c :: r) =
            byteSize (Lexeme.first c r).1.text + byteSize (Lexeme.first c r).2 := by
          rw [← byteSize_append, Lexeme.first_append]
        rw [itemsFrom_lexeme start hc, itemsFrom_lexeme start hc, Lexeme.first_append_newline t hc,
          hsize, List.cons_append, ← Nat.add_assoc start,
          ih _ (Lexeme.length_first_lt c r) _ (Lexeme.first c r).2 rfl]

/-! ## The pass over moved items -/

namespace Reader

/-- The pass over moved items finds the same fault, moved as well. -/
theorem flatPass_shift (limit n : Nat) (items : List Item) : ∀ stack : List Span,
    flatPass limit (stack.map (Span.shift n)) (items.map (Item.shift n)) =
      (flatPass limit stack items).map (ParseError.shift n) := by
  induction items with
  | nil => intro stack; cases stack <;> rfl
  | cons i items ih =>
    intro stack
    cases i with
    | error e => rfl
    | token t =>
      obtain ⟨kind, text, span⟩ := t
      cases kind with
      | lparen =>
        by_cases hd : limit ≤ stack.length
        · rw [flatPass_tooDeep limit rfl hd]
          exact flatPass_tooDeep limit rfl (by rwa [List.length_map]) _
        · have hd' := Nat.lt_of_not_le hd
          rw [flatPass_opening limit rfl hd', ← ih]
          exact flatPass_opening limit rfl (by rwa [List.length_map]) _
      | rparen =>
        cases stack with
        | nil => rfl
        | cons opening stack => exact ih stack
      | whitespace | integer | string | atom => exact ih stack

/-! ## The pass over two parts -/

/-- An item stops the pass with an error, or takes it on with other open lists, whatever follows. -/
theorem flatPass_cons_cases (limit : Nat) (stack : List Span) (i : Item) :
    (∃ err, ∀ items, flatPass limit stack (i :: items) = some err) ∨
      ∃ stack', ∀ items, flatPass limit stack (i :: items) = flatPass limit stack' items := by
  cases i with
  | error e => exact .inl ⟨.lex e, flatPass_error limit stack e⟩
  | token t =>
    obtain ⟨kind, text, span⟩ := t
    cases kind with
    | lparen =>
      by_cases hd : limit ≤ stack.length
      · exact .inl ⟨.tooDeep limit span, flatPass_tooDeep limit rfl hd⟩
      · exact .inr ⟨span :: stack, flatPass_opening limit rfl (Nat.lt_of_not_le hd)⟩
    | rparen =>
      cases stack with
      | nil => exact .inl ⟨.unexpected .rparen span, flatPass_unexpected limit rfl⟩
      | cons opening stack => exact .inr ⟨stack, flatPass_closing limit rfl opening stack⟩
    | whitespace | integer | string | atom => exact .inr ⟨stack, fun _ => rfl⟩

/-- A pass without a fault has closed all lists, and is taken on from there. An error other than that
of an open list does not depend on what follows. -/
theorem flatPass_append (limit : Nat) (items more : List Item) : ∀ stack : List Span,
    (flatPass limit stack items = none →
      flatPass limit stack (items ++ more) = flatPass limit [] more) ∧
    ∀ err, flatPass limit stack items = some err → (∀ opening, err ≠ .unterminated opening) →
      flatPass limit stack (items ++ more) = some err := by
  induction items with
  | nil =>
    intro stack
    cases stack with
    | nil => exact ⟨fun _ => rfl, fun err h => (by cases h)⟩
    | cons opening stack =>
      refine ⟨fun h => (by cases h), fun err h hne => ?_⟩
      cases h
      exact absurd rfl (hne opening)
  | cons i items ih =>
    intro stack
    rw [List.cons_append]
    obtain ⟨err, hstop⟩ | ⟨stack', hgo⟩ := flatPass_cons_cases limit stack i
    · rw [hstop, hstop]
      exact ⟨fun h => (by cases h), fun _ h _ => h⟩
    · rw [hgo, hgo]
      exact ih stack'

/-! ## Reading two parts -/

theorem parse_eq_error_iff (r : Reader) (source : String) (err : ParseError) :
    r.parse source = .error err ↔
      flatPass r.maxDepth [] (Text.itemsFrom 0 source.toList) = some err := by
  rw [parse_eq_error_iff_nonblank, Tokenizer.nonblank_items]

theorem flatPass_of_parse_eq_ok {r : Reader} {source : String} {p : Program}
    (h : r.parse source = .ok p) :
    flatPass r.maxDepth [] (Text.itemsFrom 0 source.toList) = none := by
  rw [Option.eq_none_iff_forall_ne_some]
  intro err he
  rw [← parse_eq_error_iff, h] at he
  cases he

end Reader

theorem Text.symbols_append_newline (s t : List Char) :
    symbols (s ++ '\n' :: t) = symbols s ++ symbols t := by
  rw [symbols_eq_map_itemsFrom 0, itemsFrom_append_newline, List.map_append,
    ← symbols_eq_map_itemsFrom, ← symbols_eq_map_itemsFrom]

theorem Expr.flattenAll_append (p q : List Expr) :
    flattenAll (p ++ q) = flattenAll p ++ flattenAll q := by
  induction p with
  | nil => rfl
  | cons e p ih => rw [List.cons_append, flattenAll, flattenAll, ih, List.append_assoc]

/-- Reading sources that are joined by a line feed. Two programs read as one after the other. After a
program, an error of the second part is reported as it is, moved by the bytes before that part. An
error of the first part is reported as it is, unless a list is left open there. -/
theorem Reader.parse_append_newline (r : Reader) (s t : String) :
    (∀ p q, r.parse s = .ok p → r.parse t = .ok q → r.parse (s ++ "\n" ++ t) = .ok (p ++ q)) ∧
    (∀ p err, r.parse s = .ok p → r.parse t = .error err →
      r.parse (s ++ "\n" ++ t) = .error (err.shift (s.utf8ByteSize + 1))) ∧
    ∀ err, r.parse s = .error err → (∀ opening, err ≠ .unterminated opening) →
      r.parse (s ++ "\n" ++ t) = .error err := by
  have htext : (s ++ "\n" ++ t).toList = s.toList ++ '\n' :: t.toList := by simp
  have hsize : Text.byteSize s.toList = s.utf8ByteSize := by
    rw [Text.byteSize_eq_utf8ByteSize, String.ofList_toList]
  have hitems : Text.itemsFrom 0 (s ++ "\n" ++ t).toList = Text.itemsFrom 0 s.toList ++
      (Text.itemsFrom 0 t.toList).map (Item.shift (s.utf8ByteSize + 1)) := by
    rw [htext, Text.itemsFrom_append_newline, Nat.add_assoc, Text.itemsFrom_add, hsize]
  refine ⟨fun p q hp hq => ?_, fun p err hp herr => ?_, fun err herr hne => ?_⟩
  · obtain ⟨hps, hpd⟩ := parse_eq_ok_iff_symbols.1 hp
    obtain ⟨hqs, hqd⟩ := parse_eq_ok_iff_symbols.1 hq
    refine parse_eq_ok_iff_symbols.2 ⟨?_, List.forall_mem_append.2 ⟨hpd, hqd⟩⟩
    rw [htext, Text.symbols_append_newline, hps, hqs, Expr.flattenAll_append, List.map_append]
  · have hs := flatPass_of_parse_eq_ok hp
    have ht := (parse_eq_error_iff r t err).1 herr
    rw [parse_eq_error_iff, hitems, (flatPass_append _ _ _ []).1 hs]
    have hshift := flatPass_shift r.maxDepth (s.utf8ByteSize + 1) (Text.itemsFrom 0 t.toList) []
    rw [ht] at hshift
    exact hshift
  · have hs := (parse_eq_error_iff r s err).1 herr
    rw [parse_eq_error_iff, hitems]
    exact (flatPass_append _ _ _ []).2 err hs hne

-- a list that the first part leaves open can be closed by the second
example : ({} : Reader).parse "(+ 1" = .error (.unterminated ⟨0, 1⟩) ∧
    ({} : Reader).parse ("(+ 1" ++ "\n" ++ "2)") =
      .ok [.list [.atom "+", .integer 1, .integer 2]] := by
  constructor <;> cbv

end StackLisp
