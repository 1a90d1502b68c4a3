/-
Operators and the tables that name them. An operator folds its operands from the left by one binary
operation and asks for a least number of them, which is never zero. A table keeps its entries in
ascending order of their names, one for each name, so that two tables with the same entries are
equal.
-/
import StackLisp.Code.Instr

namespace StackLisp

structure Operator where
  op : BinaryOp
  minOperands : Nat
  one_le : 1 ≤ minOperands
deriving DecidableEq, Repr

namespace Operator

/-- An operator on two or more operands. -/
def leftFold (op : BinaryOp) : Operator := ⟨op, 2, by decide⟩

/-- The operator with another least number of operands; zero counts as one. -/
def withMinOperands (o : Operator) (n : Nat) : Operator := ⟨o.op, max n 1, Nat.le_max_right n 1⟩

end Operator

structure OperatorTable where
  entries : List (String × Operator)
  ascending : entries.Pairwise fun a b => a.1 < b.1
deriving DecidableEq, Repr

namespace OperatorTable

def empty : OperatorTable := ⟨[], .nil⟩

/-- Addition, subtraction, multiplication and division under their usual signs. -/
def builtin : OperatorTable where
  entries :=
    [("*", .leftFold .mul), ("+", .leftFold .add), ("-", .leftFold .sub), ("/", .leftFold .divS)]
  ascending := by decide

/-! ## Insertion -/

/-- Puts an entry in its place; also gives the operator that had the name before. -/
def insertEntry (name : String) (o : Operator) :
    List (String × Operator) → Option Operator × List (String × Operator)
  | [] => (none, [(name, o)])
  | (n, old) :: rest =>
    if name < n then (none, (name, o) :: (n, old) :: rest)
    else if name = n then (some old, (name, o) :: rest)
    else
      let more := insertEntry name o rest
      (more.1, (n, old) :: more.2)

theorem mem_insertEntry {name : String} {o : Operator} {p : String × Operator} :
    ∀ {es : List (String × Operator)}, p ∈ (insertEntry name o es).2 → p = (name, o) ∨ p ∈ es
  | [], h => by simpa [insertEntry] using h
  | (n, old) :: rest, h => by
    unfold insertEntry at h
    split at h
    · simpa using h
    · split at h
      · rcases List.mem_cons.1 h with h | h
        · exact .inl h
        · exact .inr (List.mem_cons_of_mem _ h)
      · rcases List.mem_cons.1 h with h | h
        · exact .inr (h ▸ List.mem_cons_self ..)
        · rcases mem_insertEntry h with h | h
          · exact .inl h
          · exact .inr (List.mem_cons_of_mem _ h)

theorem insertEntry_ascending (name : String) (o : Operator) :
    ∀ {es : List (String × Operator)}, es.Pairwise (fun a b => a.1 < b.1) →
      (insertEntry name o es).2.Pairwise fun a b => a.1 < b.1
  | [], _ => by simp [insertEntry]
  | (n, old) :: rest, h => by
    obtain ⟨hn, hrest⟩ := List.pairwise_cons.1 h
    unfold insertEntry
    split
    · rename_i hlt
      refine List.pairwise_cons.2 ⟨fun p hp => ?_, h⟩
      rcases List.mem_cons.1 hp with rfl | hp
      · exact hlt
      · exact String.lt_trans hlt (hn p hp)
    · split
      · rename_i heq
        exact List.pairwise_cons.2 ⟨fun p hp => heq ▸ hn p hp, hrest⟩
      · rename_i hlt hne
        refine List.pairwise_cons.2 ⟨fun p hp => ?_, insertEntry_ascending name o hrest⟩
        rcases mem_insertEntry hp with rfl | hp
        · exact Std.lt_of_le_of_ne (String.not_lt.1 hlt) fun h => hne h.symm
        · exact hn p hp

/-- The table with an operator under a name, and the operator that it replaces. -/
def insert (t : OperatorTable) (name : String) (o : Operator) : Option Operator × OperatorTable :=
  let done := insertEntry name o t.entries
  (done.1, ⟨done.2, insertEntry_ascending name o t.ascending⟩)

/-- The table of some insertions, made from the left into an empty one. -/
def ofList (entries : List (String × Operator)) : OperatorTable :=
  entries.foldl (fun t e => (t.insert e.1 e.2).2) empty

/-! ## Look-up -/

def get? (t : OperatorTable) (name : String) : Option Operator := t.entries.lookup name

def contains (t : OperatorTable) (name : String) : Bool := t.entries.any fun e => e.1 == name

def names (t : OperatorTable) : List String := t.entries.map (·.1)

/-- The names of a table for a message. -/
def known (t : OperatorTable) : String := " ".intercalate t.names

end OperatorTable

end StackLisp
