/-
What code keeps of a program. An application of many operands is short for nested applications of
two, and an application of one operand is that operand. Without this sugar a program is a list of
binary trees, and its code is the trees in postfix order with a drop between one and the next.

A machine that builds trees in place of values reads them back from the code. So two programs have
the same code if and only if they are the same trees: putting the first operands of an application
into a list of their own changes nothing anywhere, and every other difference shows.
-/
import StackLisp.Proofs.Lowering.Lowers

namespace StackLisp

/-! ## Programs without sugar -/

/-- An expression in which every operator is resolved and has two operands. -/
inductive BinaryTree
  | leaf (value : Int64)
  | node (op : BinaryOp) (left right : BinaryTree)
deriving DecidableEq, Repr

namespace OperatorTable

mutual

/-- The tree of an expression, if it applies operators of the table to words. -/
def desugar (t : OperatorTable) : Expr → Option BinaryTree
  | .integer v => if Compiler.isWord v then some (.leaf (Int64.ofInt v)) else none
  | .list (.atom name :: operands) =>
    match t.get? name, t.desugarAll operands with
    | some o, some (x :: xs) => some (xs.foldl (.node o.op) x)
    | _, _ => none
  | _ => none

/-- The trees of some expressions, if all of them have one. -/
def desugarAll (t : OperatorTable) : List Expr → Option (List BinaryTree)
  | [] => some []
  | e :: es => do
    let x ← t.desugar e
    let xs ← t.desugarAll es
    return x :: xs

end

theorem desugarAll_cons_eq_some {t : OperatorTable} {e : Expr} {es : List Expr} {x : BinaryTree}
    {xs : List BinaryTree} (he : t.desugar e = some x) (hes : t.desugarAll es = some xs) :
    t.desugarAll (e :: es) = some (x :: xs) := by
  rw [desugarAll, he, hes]
  rfl

theorem desugar_application {t : OperatorTable} {name : String} {o : Operator}
    {operands : List Expr} {x : BinaryTree} {xs : List BinaryTree} (ho : t.get? name = some o)
    (h : t.desugarAll operands = some (x :: xs)) :
    t.desugar (.list (.atom name :: operands)) = some (xs.foldl (.node o.op) x) := by
  rw [desugar, ho, h]

end OperatorTable

/-! ## Postfix code -/

namespace BinaryTree

/-- The code that computes a tree. -/
def code : BinaryTree → Code
  | .leaf v => [.const v]
  | .node op left right => left.code ++ right.code ++ [.binary op]

/-- The code that computes some trees and drops all values but the last. -/
def codeAll : List BinaryTree → Code
  | [] => []
  | [t] => t.code
  | t :: ts => t.code ++ .drop :: codeAll ts

theorem codeAll_cons (t : BinaryTree) {ts : List BinaryTree} (h : ts ≠ []) :
    codeAll (t :: ts) = t.code ++ .drop :: codeAll ts := by
  rw [codeAll]
  exact h

/-- The trees that a block builds, started with some trees on the stack: those that it drops, in
order, and then those that it leaves. -/
def ofCode (stack : List BinaryTree) : Code → List BinaryTree
  | [] => stack
  | .const v :: code => ofCode (.leaf v :: stack) code
  | .binary op :: code =>
    match stack with
    | right :: left :: stack => ofCode (.node op left right :: stack) code
    | _ => []
  | .drop :: code =>
    match stack with
    | t :: stack => t :: ofCode stack code
    | [] => []

/-- The code of a tree builds the tree on any stack. -/
theorem ofCode_code_append (t : BinaryTree) : ∀ (stack : List BinaryTree) (rest : Code),
    ofCode stack (t.code ++ rest) = ofCode (t :: stack) rest := by
  induction t with
  | leaf v => intro stack rest; rfl
  | node op left right ihl ihr =>
    intro stack rest
    rw [code, List.append_assoc, List.append_assoc, ihl, ihr]
    rfl

theorem ofCode_codeAll : ∀ ts : List BinaryTree, ofCode [] (codeAll ts) = ts
  | [] => rfl
  | [t] => by
    have h := ofCode_code_append t [] []
    rwa [List.append_nil] at h
  | t :: t' :: ts => by
    rw [codeAll_cons t (List.cons_ne_nil _ _), ofCode_code_append, ofCode, ofCode_codeAll]

/-- Postfix code is read in one way only. -/
theorem codeAll_inj {ts us : List BinaryTree} : codeAll ts = codeAll us ↔ ts = us := by
  constructor
  · intro h
    rw [← ofCode_codeAll ts, h, ofCode_codeAll]
  · intro h
    rw [h]

end BinaryTree

/-! ## Code is postfix code of trees -/

namespace Compiler

mutual

theorem Lowers.exists_desugar {c : Compiler} : ∀ {depth : Nat} {e : Expr} {code : Code},
    Lowers c depth e code → ∃ tree, c.operators.desugar e = some tree ∧ tree.code = code
  | _, _, _, .integer hv => ⟨_, by rw [OperatorTable.desugar, if_pos hv], rfl⟩
  | _, _, _, .application _ ho _ hx hxs => by
    obtain ⟨tree, htree, rfl⟩ := hx.exists_desugar
    obtain ⟨trees, htrees, hcode⟩ := hxs.exists_desugarAll
    have hall := OperatorTable.desugarAll_cons_eq_some htree htrees
    exact ⟨_, OperatorTable.desugar_application ho hall, hcode tree⟩

/-- The code of further operands joins their trees to the tree so far. -/
theorem LowersRest.exists_desugarAll {c : Compiler} : ∀ {depth : Nat} {op : BinaryOp}
    {xs : List Expr} {code : Code}, LowersRest c depth op xs code →
      ∃ trees, c.operators.desugarAll xs = some trees ∧
        ∀ acc : BinaryTree, (trees.foldl (.node op) acc).code = acc.code ++ code
  | _, _, _, _, .nil => ⟨[], by rw [OperatorTable.desugarAll], fun acc => (List.append_nil _).symm⟩
  | _, op, _, _, .cons hx hxs => by
    obtain ⟨tree, htree, rfl⟩ := hx.exists_desugar
    obtain ⟨trees, htrees, hcode⟩ := hxs.exists_desugarAll
    refine ⟨tree :: trees, OperatorTable.desugarAll_cons_eq_some htree htrees, fun acc => ?_⟩
    rw [List.foldl_cons, hcode, BinaryTree.code]
    simp only [List.append_assoc, List.singleton_append]

end

theorem LowersProgram.exists_desugarAll {c : Compiler} {p : Program} {code : Code}
    (h : LowersProgram c p code) : ∃ trees, c.operators.desugarAll p = some trees ∧ trees ≠ [] ∧
      BinaryTree.codeAll trees = code := by
  induction h with
  | last he =>
    obtain ⟨tree, htree, rfl⟩ := he.exists_desugar
    have hnil : c.operators.desugarAll [] = some [] := by rw [OperatorTable.desugarAll]
    exact ⟨[tree], OperatorTable.desugarAll_cons_eq_some htree hnil, List.cons_ne_nil _ _, rfl⟩
  | cons he _ ih =>
    obtain ⟨tree, htree, rfl⟩ := he.exists_desugar
    obtain ⟨trees, htrees, hne, rfl⟩ := ih
    exact ⟨tree :: trees, OperatorTable.desugarAll_cons_eq_some htree htrees, List.cons_ne_nil _ _,
      BinaryTree.codeAll_cons tree hne⟩

end Compiler

/-! ## Sugar in any place -/

/-- An expression with a hole in it. -/
inductive Expr.Context
  | hole
  | list (before : List Expr) (inner : Context) (after : List Expr)

/-- Puts an expression into the hole. -/
def Expr.Context.fill (e : Expr) : Expr.Context → Expr
  | .hole => e
  | .list before inner after => .list (before ++ inner.fill e :: after)

/-- A list in a hole makes a list. -/
theorem Expr.Context.exists_fill_list (es : List Expr) (context : Expr.Context) :
    ∃ es', context.fill (.list es) = .list es' := by
  cases context with
  | hole => exact ⟨es, rfl⟩
  | list before inner after => exact ⟨_, rfl⟩

namespace OperatorTable

theorem desugarAll_append (t : OperatorTable) (es es' : List Expr) : t.desugarAll (es ++ es') = (do
    let xs ← t.desugarAll es
    let xs' ← t.desugarAll es'
    return xs ++ xs') := by
  induction es with
  | nil => simp [desugarAll]
  | cons e es ih => simp [desugarAll, ih, Option.bind_assoc]

/-- The first operands of an application can be an application of their own. -/
theorem desugar_nested (t : OperatorTable) (name : String) (x : Expr) (xs ys : List Expr) :
    t.desugar (.list (.atom name :: .list (.atom name :: x :: xs) :: ys)) =
      t.desugar (.list (.atom name :: x :: (xs ++ ys))) := by
  rw [desugar, desugar, desugarAll, desugarAll, desugar, desugarAll, desugarAll_append]
  cases t.get? name with
  | none => rfl
  | some o =>
    cases t.desugar x <;> cases t.desugarAll xs <;> cases t.desugarAll ys <;>
      simp [List.foldl_append]

theorem desugarAll_replace {t : OperatorTable} {e e' : Expr} (h : t.desugar e = t.desugar e')
    (before after : List Expr) :
    t.desugarAll (before ++ e :: after) = t.desugarAll (before ++ e' :: after) := by
  rw [desugarAll_append, desugarAll_append, desugarAll, desugarAll, h]

/-- Lists with the same tree can take each other's place in any expression. -/
theorem desugar_fill {t : OperatorTable} {es es' : List Expr}
    (h : t.desugar (.list es) = t.desugar (.list es')) (context : Expr.Context) :
    t.desugar (context.fill (.list es)) = t.desugar (context.fill (.list es')) := by
  induction context with
  | hole => exact h
  | list before inner after ih =>
    rw [Expr.Context.fill, Expr.Context.fill]
    cases before with
    | nil =>
      -- a list at the head of a list applies no operator
      obtain ⟨_, hl⟩ := inner.exists_fill_list es
      obtain ⟨_, hl'⟩ := inner.exists_fill_list es'
      rw [hl, hl']
      simp [desugar]
    | cons head before =>
      cases head with
      | atom name => rw [List.cons_append, List.cons_append, desugar, desugar, desugarAll_replace ih]
      | integer _ | string _ | list _ => simp [desugar]

end OperatorTable

/-- Code forgets the sugar of a program and nothing else. Programs that have code have trees, and the
same code if and only if they are the same trees. In particular the first operands of an application
in any place can be put into a list of their own. -/
theorem Compiler.compile_eq_iff_desugar_eq {c d : Compiler} {p q : Program} {a b : Code}
    (hp : c.compile p = .ok a) (hq : d.compile q = .ok b) :
    (∃ ts us, c.operators.desugarAll p = some ts ∧ d.operators.desugarAll q = some us ∧
      (a = b ↔ ts = us)) ∧
    ∀ (before after : Program) (context : Expr.Context) (name : String) (x : Expr)
      (xs ys : List Expr), c.operators = d.operators →
      p = before ++ context.fill (.list (.atom name :: x :: (xs ++ ys))) :: after →
      q = before ++ context.fill (.list (.atom name :: .list (.atom name :: x :: xs) :: ys)) :: after →
      a = b := by
  obtain ⟨ts, hts, -, rfl⟩ := ((c.compile_eq_ok_iff p a).1 hp).exists_desugarAll
  obtain ⟨us, hus, -, rfl⟩ := ((d.compile_eq_ok_iff q b).1 hq).exists_desugarAll
  refine ⟨⟨ts, us, hts, hus, BinaryTree.codeAll_inj⟩, ?_⟩
  rintro before after context name x xs ys hop rfl rfl
  have hsame := OperatorTable.desugar_fill (c.operators.desugar_nested name x xs ys) context
  rw [← hop, OperatorTable.desugarAll_replace hsame before after, hts] at hus
  cases hus
  rfl

/-- A sum of three operands under one table, and under another one a sum of a sum and of a sum of one
operand. -/
theorem Compiler.compile_eq_iff_desugar_eq_sum :
    let c : Compiler := {}
    let d : Compiler := ⟨.ofList [("sum", (Operator.leftFold .add).withMinOperands 1)], 2⟩
    let p : Program := [.list [.atom "+", .integer 1, .integer 2, .integer 3], .integer (-4)]
    let q : Program := [.list [.atom "sum", .list [.atom "sum", .integer 1, .integer 2],
      .list [.atom "sum", .integer 3]], .integer (-4)]
    let code : Code := [.const 1, .const 2, .binary .add, .const 3, .binary .add, .drop, .const (-4)]
    c.compile p = .ok code ∧ d.compile q = .ok code ∧
      ∃ ts us, c.operators.desugarAll p = some ts ∧ d.operators.desugarAll q = some us ∧ ts = us := by
  intro c d p q code
  have hp : c.compile p = .ok code := rfl
  have hq : d.compile q = .ok code := rfl
  obtain ⟨ts, us, hts, hus, h⟩ := (compile_eq_iff_desugar_eq hp hq).1
  exact ⟨hp, hq, ts, us, hts, hus, h.1 rfl⟩

end StackLisp
