/-
The written form of an expression: atoms as they are, integers in decimal, strings quoted, and the
elements of a list between parentheses with one space between any two.
-/
import StackLisp.Expr.Basic
import StackLisp.Token.Literal

namespace StackLisp.Expr

mutual

def render : Expr → String
  | .atom name => name
  | .integer value => value.repr
  | .string value => Literal.escape value
  | .list es => "(" ++ " ".intercalate (renderAll es) ++ ")"

def renderAll : List Expr → List String
  | [] => []
  | e :: es => e.render :: renderAll es

end

theorem renderAll_eq_map (es : List Expr) : renderAll es = es.map render := by
  induction es with
  | nil => rfl
  | cons e es ih => simp [renderAll, ih]

end StackLisp.Expr
