/-
The items of a source that are read: all but the blanks. Blanks only move what comes after them, and
a text that stands elsewhere has the same items, moved. Whether a scan gives the blanks or skips
them makes no difference to the reader, which passes over them itself.
-/
import StackLisp.Proofs.Reading.Steps
import StackLisp.Proofs.Token.Scan

namespace StackLisp

/-! ## Items that are read -/

namespace Text

open Lexeme

/-- The items other than blanks of a text that starts at a byte offset. -/
def itemsFrom (start : Nat) (cs : List Char) : List Item := Item.nonblank (place start (ofText cs))

theorem itemsFrom_nil (start : Nat) : itemsFrom start [] = [] := by
  rw [itemsFrom, ofText, place]
  rfl

theorem itemsFrom_dropWhile (start : Nat) (cs : List Char) :
    itemsFrom (start + byteSize (cs.takeWhile isBlank)) (cs.dropWhile isBlank) =
      itemsFrom start cs := by
  cases cs with
  | nil => rfl
  | cons c r =>
    by_cases hc : isBlank c = true
    · rw [itemsFrom, itemsFrom, ofText_of_first (first_blank r hc), place, itemAt,
        Item.nonblank_blank rfl, List.takeWhile_cons_of_pos hc, List.dropWhile_cons_of_pos hc]
    · rw [List.takeWhile_cons_of_neg hc, List.dropWhile_cons_of_neg hc]
      rfl

/-- Blanks are passed over one by one as well as run by run. -/
theorem itemsFrom_blank (start : Nat) {c : Char} (hc : isBlank c = true) (r : List Char) :
    itemsFrom start (c :: r) = itemsFrom (start + c.utf8Size) r := by
  rw [← itemsFrom_dropWhile, List.takeWhile_cons_of_pos hc, List.dropWhile_cons_of_pos hc, byteSize,
    ← Nat.add_assoc, itemsFrom_dropWhile]

theorem itemsFrom_lexeme (start : Nat) {c : Char} (hc : isBlank c = false) (r : List Char) :
    itemsFrom start (c :: r) = (first c r).1.itemAt start ::
      itemsFrom (start + byteSize (first c r).1.text) (first c r).2 := by
  have hw : ((first c r).1.itemAt start).isWhitespace = false := by
    rw [Bool.eq_false_iff, ne_eq, isWhitespace_itemAt]
    exact kind_first_of_not_isBlank hc r
  rw [itemsFrom, ofText, place, Item.nonblank, List.filter_cons_of_pos (by simp [hw])]
  rfl

end Text

theorem Tokenizer.nonblank_items (t : Tokenizer) (source : String) :
    Item.nonblank (t.items source) = Text.itemsFrom 0 source.toList := by
  rw [Item.nonblank, items, List.filter_filter, Text.itemsFrom, Item.nonblank]
  congr 1
  funext i
  cases hi : i.isWhitespace <;> simp [keeps, hi]

theorem Tokenizer.items_skipping (source : String) :
    ({ skipsBlanks := true } : Tokenizer).items source = Text.itemsFrom 0 source.toList := by
  have hkeep : ({ skipsBlanks := true } : Tokenizer).keeps = fun i => !i.isWhitespace := by
    funext i
    simp [keeps]
  rw [items, hkeep]
  rfl

/-! ## Blanks are not read -/

namespace Reader

/-- Items without their blanks are read like the items themselves, and the same is left of them. -/
theorem read_nonblank (limit : Nat) (stack : List Span) (items : List Item) :
    read limit stack (Item.nonblank items) =
      (read limit stack items).map fun out => (out.1, Item.nonblank out.2) := by
  match items with
  | [] =>
    cases stack with
    | nil => rw [read_nil_top]; exact read_nil_top limit
    | cons opening stack => rw [read_nil_list]; exact read_nil_list limit stack opening
  | .error e :: items => rw [Item.nonblank_error, read_error, read_error]; rfl
  | .token t :: items =>
    cases t.role with
    | blank ht =>
      rw [Item.nonblank_blank ht, read_blank limit stack ht]
      exact read_nonblank limit stack items
    | closing ht =>
      rw [Item.nonblank_token (by simp [ht])]
      cases stack with
      | nil => rw [read_closing_top limit ht, read_closing_top limit ht]; rfl
      | cons opening stack =>
        rw [read_closing_list limit stack ht, read_closing_list limit stack ht]
        rfl
    | opening ht =>
      rw [Item.nonblank_token (by simp [ht])]
      by_cases hd : limit ≤ stack.length
      · rw [read_tooDeep limit stack ht hd, read_tooDeep limit stack ht hd]; rfl
      · have hd' : stack.length < limit := Nat.lt_of_not_le hd
        rw [read_opening limit stack ht hd', read_opening limit stack ht hd',
          read_nonblank limit (t.span :: stack) items]
        -- an error in the inner list ends both; else both go on behind it
        cases hi : read limit (t.span :: stack) items with
        | error err => rfl
        | ok inner =>
          have hlt : inner.2.length < items.length := length_lt_of_read hi
          simp only [Except.map, bind, Except.bind]
          rw [read_nonblank limit stack inner.2]
          cases read limit stack inner.2 <;> rfl
    | leaf ht =>
      rw [Item.nonblank_token (kind_ne_of_leaf ht), read_leaf limit stack ht,
        read_leaf limit stack ht, read_nonblank limit stack items]
      cases read limit stack items <;> rfl
    | malformed ht =>
      have hk : t.kind ≠ .whitespace := by
        obtain hk | hk | hk := kind_of_leaf (t := t) (by simp [ht]) <;> simp [hk]
      rw [Item.nonblank_token hk, read_malformed limit stack ht, read_malformed limit stack ht]
      rfl
termination_by items.length

theorem program_nonblank (limit : Nat) (items : List Item) :
    program limit (Item.nonblank items) = program limit items := by
  have h := read_nonblank limit [] items
  simp only [read] at h
  cases hp : program limit items <;> cases hq : program limit (Item.nonblank items) <;>
    simp_all [Except.map]

/-- A reader's tokenizer is of no account. -/
theorem parse_eq_program (r : Reader) (source : String) :
    r.parse source = program r.maxDepth (Text.itemsFrom 0 source.toList) := by
  rw [parse, ← program_nonblank, Tokenizer.nonblank_items]

end Reader

/-- A scan that skips blanks gives what a scan gives that does not, in the same order and at the same
places, except for the blanks. Reading gives the same trees or the same error with either. -/
theorem Tokenizer.skipping_blanks_invisible (source : String) :
    let plain : Tokenizer := { skipsBlanks := false }
    let skipping : Tokenizer := { skipsBlanks := true }
    (∀ items, (plain.scan source).Yields items ↔ items = plain.items source) ∧
    (∀ items, (skipping.scan source).Yields items ↔
      items = (plain.items source).filter fun i => !i.isWhitespace) ∧
    skipping.items source = (plain.items source).filter (fun i => !i.isWhitespace) ∧
    ∀ limit,
      (⟨skipping, limit⟩ : Reader).parse source = (⟨plain, limit⟩ : Reader).parse source := by
  intro plain skipping
  have hitems : skipping.items source = Item.nonblank (plain.items source) := by
    rw [nonblank_items]
    exact items_skipping source
  refine ⟨Scan.yields_iff plain source, fun items => ?_, hitems, fun limit => ?_⟩
  · rw [Scan.yields_iff, hitems]
    rfl
  · rw [Reader.parse_eq_program, Reader.parse_eq_program]

/-! ## Moved items -/

def Span.shift (n : Nat) (s : Span) : Span := ⟨s.start + n, s.stop + n⟩

def Item.shift (n : Nat) : Item → Item
  | .token t => .token ⟨t.kind, t.text, t.span.shift n⟩
  | .error e => .error ⟨e.fault, e.span.shift n⟩

/-- The same error, found `n` bytes further on. -/
def ParseError.shift (n : Nat) : ParseError → ParseError
  | .lex e => .lex ⟨e.fault, e.span.shift n⟩
  | .unexpected kind span => .unexpected kind (span.shift n)
  | .unterminated opening => .unterminated (opening.shift n)
  | .tooDeep limit span => .tooDeep limit (span.shift n)

theorem Lexeme.itemAt_add (l : Lexeme) (start n : Nat) :
    l.itemAt (start + n) = (l.itemAt start).shift n := by
  unfold itemAt
  cases l.kind? <;> simp [Item.shift, Span.shift, Nat.add_right_comm]

theorem Lexeme.place_add (ls : List Lexeme) (start n : Nat) :
    place (start + n) ls = (place start ls).map (Item.shift n) := by
  induction ls generalizing start with
  | nil => rfl
  | cons l ls ih => rw [place, place, List.map_cons, itemAt_add, Nat.add_right_comm, ih]

theorem Text.itemsFrom_add (start n : Nat) (cs : List Char) :
    itemsFrom (start + n) cs = (itemsFrom start cs).map (Item.shift n) := by
  have hblank : ∀ i : Item, (i.shift n).isWhitespace = i.isWhitespace := by
    intro i
    cases i <;> rfl
  rw [itemsFrom, itemsFrom, Lexeme.place_add, Item.nonblank, Item.nonblank, List.filter_map]
  simp only [Function.comp_def, hblank]

end StackLisp
