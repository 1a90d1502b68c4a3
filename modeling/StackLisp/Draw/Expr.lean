/-
Drawn expressions: short atoms, integers below 2^192, short strings of printable ASCII, and lists of
at most four elements, nested at most six deep.
-/
import StackLisp.Draw.Basic
import StackLisp.Expr.Basic

namespace StackLisp.Draw

/-- Letters and signs, with which an atom starts; the first of them apart. -/
def atomStarts : List Char := "bcdefghijklmnopqrstuvwxyzABCDEFGHIJKLMNOPQRSTUVWXYZ+-*/_".toList

/-- The characters with which an atom goes on; the first of them apart. -/
def atomChars : List Char :=
  "bcdefghijklmnopqrstuvwxyzABCDEFGHIJKLMNOPQRSTUVWXYZ0123456789+-*/_?".toList

def atom : Draw Expr := do
  let start ← choose 'a' atomStarts
  let more ← times (choose 'a' atomChars) (← upTo 8)
  return .atom (String.ofList (start :: more))

def integer : Draw Expr := do
  let magnitude ← bytes (← upTo 24)
  return .integer (littleEndian magnitude)

/-- A printable ASCII character, the space included. -/
def printable : Draw Char := return Char.ofNat (0x20 + (← upTo (0x7E - 0x20)))

def string : Draw Expr := do
  let chars ← times printable (← upTo 12)
  return .string (String.ofList chars)

/-- An expression in which lists are nested at most `levels` deep. -/
def exprWithin : (levels : Nat) → Draw Expr
  | 0 => do
    match ← upTo 2 with
    | 0 => atom
    | 1 => integer
    | _ => string
  | levels + 1 => do
    match ← upTo 3 with
    | 0 => atom
    | 1 => integer
    | 2 => string
    | _ => return .list (← times (exprWithin levels) (← upTo 4))

def expr : Draw Expr := exprWithin 6

def program : Draw Program := many expr

end StackLisp.Draw
