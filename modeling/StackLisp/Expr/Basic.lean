/-
Expressions: atoms, integers, strings and lists of expressions. The depth of an expression is the
number of lists around its innermost part, itself included.
-/

namespace StackLisp

inductive Expr
  | atom (name : String)
  | integer (value : Int)
  | string (value : String)
  | list (elements : List Expr)
deriving Repr, Inhabited

/-- A program is its top-level expressions in order. -/
abbrev Program := List Expr

namespace Expr

/-- What an expression is called in messages. -/
def kindName : Expr → String
  | .atom _ => "atom"
  | .integer _ => "integer"
  | .string _ => "string"
  | .list _ => "list"

/-! ## Depth -/

mutual

def depth : Expr → Nat
  | .atom _ | .integer _ | .string _ => 0
  | .list es => depthAll es + 1

/-- The greatest depth among some expressions, 0 if there are none. -/
def depthAll : List Expr → Nat
  | [] => 0
  | e :: es => max e.depth (depthAll es)

end

/-! ## Equality -/

mutual

def decEq : (a b : Expr) → Decidable (a = b)
  | .atom a, .atom b => decidable_of_iff (a = b) (by simp)
  | .integer a, .integer b => decidable_of_iff (a = b) (by simp)
  | .string a, .string b => decidable_of_iff (a = b) (by simp)
  | .list a, .list b =>
    match decEqAll a b with
    | isTrue h => isTrue (by rw [h])
    | isFalse h => isFalse (by simpa using h)
  | .atom _, .integer _ | .atom _, .string _ | .atom _, .list _ => isFalse nofun
  | .integer _, .atom _ | .integer _, .string _ | .integer _, .list _ => isFalse nofun
  | .string _, .atom _ | .string _, .integer _ | .string _, .list _ => isFalse nofun
  | .list _, .atom _ | .list _, .integer _ | .list _, .string _ => isFalse nofun

def decEqAll : (a b : List Expr) → Decidable (a = b)
  | [], [] => isTrue rfl
  | [], _ :: _ | _ :: _, [] => isFalse nofun
  | a :: as, b :: bs =>
    match decEq a b, decEqAll as bs with
    | isTrue h, isTrue hs => isTrue (by rw [h, hs])
    | isFalse h, _ => isFalse (by simp [h])
    | _, isFalse hs => isFalse (by simp [hs])

end

instance : DecidableEq Expr := decEq

end Expr

end StackLisp
