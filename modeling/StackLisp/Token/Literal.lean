/-
Written forms of literals. A string is written between quotes, with a backslash before each quote
and each backslash of its value; an integer is written in decimal without leading zeros. Reading a
literal refuses every other text.
-/
import StackLisp.Token.Lexeme

namespace StackLisp.Literal

/-! ## Strings -/

/-- The written form of a string's characters, without the quotes. -/
def escapeBody : List Char → List Char
  | [] => []
  | c :: r => if Lexeme.isEscapable c then '\\' :: c :: escapeBody r else c :: escapeBody r

def escape (value : String) : String := String.ofList ('"' :: escapeBody value.toList ++ ['"'])

/-- The characters of a string whose written form follows its opening quote. -/
def unescapeBody : List Char → Option (List Char)
  | [] => none
  | ['"'] => some []
  | '\\' :: c :: r => if Lexeme.isEscapable c then (unescapeBody r).map (c :: ·) else none
  | c :: r => if Lexeme.isPlain c then (unescapeBody r).map (c :: ·) else none

def unescape (raw : String) : Except LexFault String :=
  match raw.toList with
  | '"' :: r =>
    match unescapeBody r with
    | some value => .ok (String.ofList value)
    | none => .error .malformedString
  | _ => .error .malformedString

/-! ## Integers -/

/-- Whether a text is a decimal numeral without a leading zero. -/
def isNumeral : List Char → Bool
  | [] => false
  | c :: r => c.isDigit && r.all Char.isDigit && (c != '0' || r.isEmpty)

def integer (raw : String) : Except LexFault Nat :=
  if isNumeral raw.toList then .ok (Nat.ofDigitChars 10 raw.toList 0)
  else .error .malformedInteger

end StackLisp.Literal
