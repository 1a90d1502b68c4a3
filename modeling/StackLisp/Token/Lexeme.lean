/-
Lexemes: the pieces into which the rules cut a source. The first character of the rest of a source
decides which rule applies, and each rule takes the longest text that it matches. What no rule
matches is stray text: one character, or an opening quote with the string units after it.
-/
import StackLisp.Text.Blank
import StackLisp.Token.Basic

namespace StackLisp

/-- A piece of a source: the text of a token with its kind, or stray text. -/
structure Lexeme where
  kind? : Option Token.Kind
  text : List Char
deriving DecidableEq, Repr

namespace Lexeme

/-! ## Character classes -/

def isAtomStart (c : Char) : Bool :=
  c.isAlpha || c == '+' || c == '-' || c == '*' || c == '/' || c == '_'

def isAtomChar (c : Char) : Bool := isAtomStart c || c.isDigit || c == '?'

/-- The characters that follow a backslash in a string. -/
def isEscapable (c : Char) : Bool := c == '"' || c == '\\'

/-- The characters that stand for themselves in a string. -/
def isPlain (c : Char) : Bool := c != '\n' && c != '"' && c != '\\'

/-! ## Rules -/

/-- The longest run of string units at the front of a text, and the text after it. A unit is a
plain character, or a backslash with the character that it escapes. -/
def stringUnits : List Char → List Char × List Char
  | '\\' :: c :: r =>
    if isEscapable c then
      let units := stringUnits r
      ('\\' :: c :: units.1, units.2)
    else ([], '\\' :: c :: r)
  | c :: r =>
    if isPlain c then
      let units := stringUnits r
      (c :: units.1, units.2)
    else ([], c :: r)
  | [] => ([], [])

/-- The lexeme of an opening quote, given the units after it and the text after those: a string if
that text starts with a quote. -/
def ofUnits (units : List Char × List Char) : Lexeme × List Char :=
  match units.2 with
  | '"' :: rest => (⟨some .string, '"' :: units.1 ++ ['"']⟩, rest)
  | rest => (⟨none, '"' :: units.1⟩, rest)

/-- The lexeme at the front of a text that starts with `c`, and the text after it. -/
def first (c : Char) (r : List Char) : Lexeme × List Char :=
  if Text.isBlank c then
    (⟨some .whitespace, c :: r.takeWhile Text.isBlank⟩, r.dropWhile Text.isBlank)
  else if c = '(' then (⟨some .lparen, [c]⟩, r)
  else if c = ')' then (⟨some .rparen, [c]⟩, r)
  else if c = '0' then (⟨some .integer, [c]⟩, r)
  else if c.isDigit then
    (⟨some .integer, c :: r.takeWhile Char.isDigit⟩, r.dropWhile Char.isDigit)
  else if isAtomStart c then
    (⟨some .atom, c :: r.takeWhile isAtomChar⟩, r.dropWhile isAtomChar)
  else if c = '"' then ofUnits (stringUnits r)
  else (⟨none, [c]⟩, r)

/-! ## Nothing is lost -/

theorem stringUnits_append (cs : List Char) : (stringUnits cs).1 ++ (stringUnits cs).2 = cs := by
  fun_induction stringUnits cs <;> simp_all +zetaDelta

theorem ofUnits_append (units : List Char × List Char) :
    (ofUnits units).1.text ++ (ofUnits units).2 = '"' :: units.1 ++ units.2 := by
  unfold ofUnits
  split <;> simp_all

theorem first_append (c : Char) (r : List Char) : (first c r).1.text ++ (first c r).2 = c :: r := by
  unfold first
  repeat' split
  all_goals simp_all [ofUnits_append, stringUnits_append]

theorem length_first_lt (c : Char) (r : List Char) : (first c r).2.length < (c :: r).length := by
  have h := congrArg List.length (first_append c r)
  have : (first c r).1.text ≠ [] := by
    unfold first ofUnits
    repeat' split
    all_goals simp
  have := List.length_pos_iff.2 this
  simp only [List.length_append] at h
  omega

/-! ## The lexemes of a text -/

def ofText : List Char → List Lexeme
  | [] => []
  | c :: r =>
    let l := first c r
    l.1 :: ofText l.2
termination_by cs => cs.length
decreasing_by exact length_first_lt c r

end Lexeme

end StackLisp
