/-
Reading programs. The items of a source are read from the left; an opening parenthesis starts a
list that ends at the parenthesis closing it, and everything else is a leaf. Lists may be nested
up to a limit. The first fault ends the reading.
-/
import StackLisp.Expr.Basic
import StackLisp.Token.Literal
import StackLisp.Token.Stream

namespace StackLisp

/-- Why a source is no program. -/
inductive ParseError
  /-- Text that is no token, or no literal. -/
  | lex (error : LexError)
  /-- A token where no expression can start. -/
  | unexpected (kind : Token.Kind) (span : Span)
  /-- A list that is still open at the end; the span is that of its parenthesis. -/
  | unterminated (opening : Span)
  /-- A parenthesis that opens one list more than the limit allows. -/
  | tooDeep (limit : Nat) (span : Span)
deriving DecidableEq, Repr

namespace ParseError

def span : ParseError → Span
  | .lex e => e.span
  | .unexpected _ span => span
  | .unterminated opening => opening
  | .tooDeep _ span => span

def message : ParseError → String
  | .lex e => e.message
  | .unexpected kind span => "unexpected " ++ kind.name ++ " at " ++ span.text
  | .unterminated opening => "unterminated list opened at " ++ opening.text
  | .tooDeep limit span =>
    "lists nested deeper than " ++ limit.repr ++ " levels at " ++ span.text

end ParseError

/-- How sources are read: by which tokenizer, and how deep lists may be nested. -/
structure Reader where
  tokenizer : Tokenizer := {}
  maxDepth : Nat := 256
deriving DecidableEq, Repr

namespace Reader

/-- The expression that a single token stands for. -/
def leaf (t : Token) : Except ParseError Expr :=
  match t.kind with
  | .atom => .ok (.atom t.text)
  | .integer =>
    match Literal.integer t.text with
    | .ok n => .ok (.integer n)
    | .error fault => .error (.lex ⟨fault, t.span⟩)
  | .string =>
    match Literal.unescape t.text with
    | .ok value => .ok (.string value)
    | .error fault => .error (.lex ⟨fault, t.span⟩)
  | kind => .error (.unexpected kind t.span)

/-- The elements of a list, read from the front of some items, and the items after the list. -/
structure Elements (items : List Item) where
  exprs : List Expr
  rest : List Item
  shorter : rest.length < items.length

/-- Reads the elements of a list up to its end. The list was opened at `opening`, and `depth` lists
are open, this one included. -/
def elements (limit depth : Nat) (opening : Span) :
    (items : List Item) → Except ParseError (Elements items)
  | [] => .error (.unterminated opening)
  | .error e :: _ => .error (.lex e)
  | .token t :: items =>
    match t.kind with
    | .whitespace =>
      match elements limit depth opening items with
      | .error e => .error e
      | .ok more => .ok ⟨more.exprs, more.rest, Nat.lt_succ_of_lt more.shorter⟩
    | .rparen => .ok ⟨[], items, Nat.lt_succ_self _⟩
    | .lparen =>
      if limit ≤ depth then .error (.tooDeep limit t.span)
      else
        match elements limit (depth + 1) t.span items with
        | .error e => .error e
        | .ok inner =>
          have := inner.shorter
          match elements limit depth opening inner.rest with
          | .error e => .error e
          | .ok more =>
            .ok ⟨.list inner.exprs :: more.exprs, more.rest,
              Nat.lt_succ_of_lt (Nat.lt_trans more.shorter inner.shorter)⟩
    | _ =>
      match leaf t with
      | .error e => .error e
      | .ok e =>
        match elements limit depth opening items with
        | .error e => .error e
        | .ok more => .ok ⟨e :: more.exprs, more.rest, Nat.lt_succ_of_lt more.shorter⟩
termination_by items => items.length

/-- Reads items that stand in no list. -/
def program (limit : Nat) : List Item → Except ParseError Program
  | [] => .ok []
  | .error e :: _ => .error (.lex e)
  | .token t :: items =>
    match t.kind with
    | .whitespace => program limit items
    | .lparen =>
      if limit = 0 then .error (.tooDeep limit t.span)
      else
        match elements limit 1 t.span items with
        | .error e => .error e
        | .ok inner =>
          have := inner.shorter
          match program limit inner.rest with
          | .error e => .error e
          | .ok more => .ok (.list inner.exprs :: more)
    | _ =>
      match leaf t with
      | .error e => .error e
      | .ok e =>
        match program limit items with
        | .error e => .error e
        | .ok more => .ok (e :: more)
termination_by items => items.length

/-- The program that a source is, or the first fault in it. -/
def parse (r : Reader) (source : String) : Except ParseError Program :=
  program r.maxDepth (r.tokenizer.items source)

end Reader

end StackLisp
