/-
Tokens and lexical errors. A source is a sequence of items, each of them a token or a stretch of
text that no rule matches; both know the bytes of the source that they cover.
-/

namespace StackLisp

/-- A range of byte offsets in a source, its end excluded. -/
structure Span where
  start : Nat
  stop : Nat
deriving DecidableEq, Repr

def Span.text (s : Span) : String := s.start.repr ++ ".." ++ s.stop.repr

/-! ## Tokens -/

inductive Token.Kind
  | whitespace | lparen | rparen | integer | string | atom
deriving DecidableEq, Repr

/-- What a kind of token is called in messages. -/
def Token.Kind.name : Token.Kind → String
  | .whitespace => "whitespace"
  | .lparen => "`(`"
  | .rparen => "`)`"
  | .integer => "integer"
  | .string => "string"
  | .atom => "atom"

/-- What a kind of token is called in listings. -/
def Token.Kind.label : Token.Kind → String
  | .whitespace => "Whitespace"
  | .lparen => "LParen"
  | .rparen => "RParen"
  | .integer => "Integer"
  | .string => "String"
  | .atom => "Atom"

structure Token where
  kind : Token.Kind
  text : String
  span : Span
deriving DecidableEq, Repr

/-! ## Errors -/

/-- Why a text is no token, or no written form of a literal. -/
inductive LexFault
  | unrecognized | malformedString | malformedInteger
deriving DecidableEq, Repr

def LexFault.message : LexFault → String
  | .unrecognized => "unrecognized input"
  | .malformedString => "malformed string literal"
  | .malformedInteger => "malformed integer literal"

structure LexError where
  fault : LexFault
  span : Span
deriving DecidableEq, Repr

def LexError.message (e : LexError) : String := e.fault.message ++ " at " ++ e.span.text

/-! ## Items -/

/-- One element of a token stream. -/
inductive Item
  | token (t : Token)
  | error (e : LexError)
deriving DecidableEq, Repr

def Item.span : Item → Span
  | .token t => t.span
  | .error e => e.span

def Item.isWhitespace : Item → Bool
  | .token t => t.kind == .whitespace
  | .error _ => false

end StackLisp
