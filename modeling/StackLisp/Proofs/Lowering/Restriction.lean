/-
Limits and tables only restrict. A greater limit lets more sources be read, but gives no source
another program: what it lets through besides is nested deeper than the smaller limit. In the same
way a greater limit and a table with more operators give more programs code, and give every program
that has code already the code that it has.
-/
import StackLisp.Proofs.Lowering.Lowers
import StackLisp.Proofs.Reading.RoundTrip

namespace StackLisp

/-! ## Tables -/

theorem OperatorTable.contains_iff {t : OperatorTable} {name : String} :
    t.contains name = true ↔ ∃ o, t.get? name = some o := by
  rw [← Option.isSome_iff_exists, get?, List.lookup_isSome_iff, contains, List.any_eq_true]
  refine exists_congr fun e => and_congr_right fun _ => ?_
  rw [beq_iff_eq, beq_iff_eq, eq_comm]

/-! ## Reading under two limits -/

/-- A smaller limit lets the same programs through, as far as they fit into it. -/
theorem Reader.parse_eq_ok_iff_of_le {r r' : Reader} (h : r.maxDepth ≤ r'.maxDepth)
    (source : String) (p : Program) : r.parse source = .ok p ↔
      r'.parse source = .ok p ∧ ∀ e ∈ p, e.depth ≤ r.maxDepth := by
  rw [parse_eq_ok_iff_symbols, parse_eq_ok_iff_symbols]
  constructor
  · rintro ⟨hs, hd⟩
    exact ⟨⟨hs, fun e he => Nat.le_trans (hd e he) h⟩, hd⟩
  · rintro ⟨⟨hs, -⟩, hd⟩
    exact ⟨hs, hd⟩

/-! ## Lowering under two limits and two tables -/

namespace Compiler

/-- `Extends c d`: the compiler `d` lowers at least as deep as `c` and knows its operators. -/
structure Extends (c d : Compiler) : Prop where
  limit : c.maxDepth ≤ d.maxDepth
  operator {name : String} {o : Operator} :
    c.operators.get? name = some o → d.operators.get? name = some o

variable {c d : Compiler}

mutual

theorem Lowers.extend (hcd : c.Extends d) : ∀ {depth : Nat} {e : Expr} {code : Code},
    Lowers c depth e code → Lowers d depth e code
  | _, _, _, .integer hv => .integer hv
  | _, _, _, .application hd ho hm hx hxs =>
    .application (Nat.lt_of_lt_of_le hd hcd.limit) (hcd.operator ho) hm (hx.extend hcd)
      (hxs.extend hcd)

theorem LowersRest.extend (hcd : c.Extends d) : ∀ {depth : Nat} {op : BinaryOp} {xs : List Expr}
    {code : Code}, LowersRest c depth op xs code → LowersRest d depth op xs code
  | _, _, _, _, .nil => .nil
  | _, _, _, _, .cons hx hxs => .cons (hx.extend hcd) (hxs.extend hcd)

end

theorem LowersProgram.extend (hcd : c.Extends d) {p : Program} {code : Code}
    (h : LowersProgram c p code) : LowersProgram d p code := by
  induction h with
  | last he => exact .last (he.extend hcd)
  | cons he _ ih => exact .cons (he.extend hcd) ih

end Compiler

/-- Under a smaller limit exactly those programs are read that are read under the greater one and are
nested no deeper than the smaller. A program with code has the same code under a greater limit and
with every table that gives each operator of the table the same meaning. -/
theorem limits_and_tables_only_restrict {n m : Nat} (hnm : n ≤ m) :
    (∀ (t : Tokenizer) (source : String) (p : Program),
      (⟨t, n⟩ : Reader).parse source = .ok p ↔
        (⟨t, m⟩ : Reader).parse source = .ok p ∧ ∀ e ∈ p, e.depth ≤ n) ∧
    ∀ (t u : OperatorTable) (p : Program) (code : Code),
      (∀ name, t.contains name = true → u.get? name = t.get? name) →
      (⟨t, n⟩ : Compiler).compile p = .ok code → (⟨u, m⟩ : Compiler).compile p = .ok code := by
  constructor
  · intro t source p
    exact Reader.parse_eq_ok_iff_of_le hnm source p
  · intro t u p code htable hcode
    have hcd : Compiler.Extends ⟨t, n⟩ ⟨u, m⟩ := by
      refine ⟨hnm, fun {name o} ho => ?_⟩
      rw [← htable name (OperatorTable.contains_iff.2 ⟨o, ho⟩)] at ho
      exact ho
    rw [Compiler.compile_eq_ok_iff] at hcode ⊢
    exact hcode.extend hcd

/-- A product that is lowered with a table of one operator and a limit of one list, and then with
all the usual operators and a limit of two. -/
theorem limits_and_tables_only_restrict_product :
    let t : OperatorTable := .ofList [("*", .leftFold .mul)]
    let p : Program := [.list [.atom "*", .integer 2, .integer 3]]
    let code : Code := [.const 2, .const 3, .binary .mul]
    (⟨{}, 1⟩ : Reader).parse "(* 2 3)" = .ok p ∧ (⟨{}, 2⟩ : Reader).parse "(* 2 3)" = .ok p ∧
      (⟨t, 1⟩ : Compiler).compile p = .ok code ∧ (⟨.builtin, 2⟩ : Compiler).compile p = .ok code := by
  intro t p code
  obtain ⟨hread, hlower⟩ := limits_and_tables_only_restrict (n := 1) (m := 2) (by decide)
  have hp : (⟨{}, 1⟩ : Reader).parse "(* 2 3)" = .ok p := by decide +kernel
  have hcode : (⟨t, 1⟩ : Compiler).compile p = .ok code := rfl
  have htable : ∀ name, t.contains name = true →
      OperatorTable.builtin.get? name = t.get? name := by
    intro name hname
    have hentries : t.entries = [("*", .leftFold .mul)] := rfl
    rw [OperatorTable.contains, hentries, List.any_cons, List.any_nil, Bool.or_false,
      beq_iff_eq] at hname
    subst hname
    rfl
  exact ⟨hp, ((hread {} _ p).1 hp).1, hcode, hlower t .builtin p code htable hcode⟩

end StackLisp
