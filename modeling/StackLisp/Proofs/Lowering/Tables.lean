/-
Tables remember the last insertion under each name, and nothing else. Whatever was inserted before,
and in which order names came, cannot be told from a table: not from a look-up, not from the listing
of its names, not from an equality of two tables, and not from the code of a program. Of a table a
program sees no more than the operators that its own lists are headed by.
-/
import StackLisp.Proofs.Lowering.Restriction
import Mathlib.Data.List.Nodup

namespace StackLisp

namespace OperatorTable

/-- `LastInsertion es name o`: of the insertions `es`, made from the left, the last one under the name
is that of `o`. -/
def LastInsertion (es : List (String × Operator)) (name : String) (o : Operator) : Prop :=
  ∃ before after, es = before ++ (name, o) :: after ∧ ∀ e ∈ after, e.1 ≠ name

/-! ## One insertion -/

theorem lookup_cons_eq (n m : String) (o : Operator) (es : List (String × Operator)) :
    List.lookup n ((m, o) :: es) = if n = m then some o else es.lookup n := by
  rw [List.lookup_cons]
  by_cases h : n = m
  · simp [h]
  · rw [beq_false_of_ne h, if_neg h]

theorem lookup_insertEntry (name : String) (o : Operator) (n : String)
    (es : List (String × Operator)) :
    (insertEntry name o es).2.lookup n = if n = name then some o else es.lookup n := by
  induction es with
  | nil => exact lookup_cons_eq n name o []
  | cons e es ih =>
    obtain ⟨m, old⟩ := e
    unfold insertEntry
    split
    · exact lookup_cons_eq n name o _
    · split
      · rename_i hm
        rw [lookup_cons_eq, lookup_cons_eq, hm]
        split <;> rfl
      · rename_i hm
        rw [lookup_cons_eq, lookup_cons_eq, ih]
        by_cases h : n = name
        · rw [if_neg (h ▸ hm), if_pos h, if_pos h]
        · rw [if_neg h, if_neg h]

/-- In a table the names before a name are smaller, so an insertion that stops at a greater name has
not missed the name. -/
theorem insertEntry_fst (name : String) (o : Operator) {es : List (String × Operator)}
    (h : es.Pairwise fun a b => a.1 < b.1) : (insertEntry name o es).1 = es.lookup name := by
  induction es with
  | nil => rfl
  | cons e es ih =>
    obtain ⟨m, old⟩ := e
    obtain ⟨hm, hes⟩ := List.pairwise_cons.1 h
    unfold insertEntry
    split
    · rename_i hlt
      refine (List.lookup_eq_none_iff.2 fun p hp => bne_iff_ne.2 fun hname => ?_).symm
      subst hname
      rcases List.mem_cons.1 hp with rfl | hp
      · exact String.lt_irrefl _ hlt
      · exact String.lt_asymm hlt (hm p hp)
    · rw [lookup_cons_eq]
      split
      · rfl
      · exact ih hes

theorem get?_insert (t : OperatorTable) (name : String) (o : Operator) (n : String) :
    (t.insert name o).2.get? n = if n = name then some o else t.get? n :=
  lookup_insertEntry name o n t.entries

theorem insert_fst (t : OperatorTable) (name : String) (o : Operator) :
    (t.insert name o).1 = t.get? name :=
  insertEntry_fst name o t.ascending

/-! ## Sequences of insertions -/

theorem ofList_concat (es : List (String × Operator)) (name : String) (o : Operator) :
    ofList (es ++ [(name, o)]) = ((ofList es).insert name o).2 := by
  unfold ofList
  rw [List.foldl_append]
  rfl

/-- A look-up goes through the insertions from the last to the first. -/
theorem get?_ofList (es : List (String × Operator)) (name : String) :
    (ofList es).get? name = es.reverse.lookup name := by
  induction es using List.reverseRecOn with
  | nil => rfl
  | append_singleton es e ih =>
    rw [ofList_concat, get?_insert, ih, List.reverse_append, List.reverse_singleton,
      List.singleton_append, lookup_cons_eq]

theorem get?_ofList_eq_some_iff {es : List (String × Operator)} {name : String} {o : Operator} :
    (ofList es).get? name = some o ↔ LastInsertion es name o := by
  rw [get?_ofList, List.lookup_eq_some_iff]
  constructor
  · rintro ⟨later, earlier, hes, hlater⟩
    refine ⟨earlier.reverse, later.reverse, ?_, fun e he => ?_⟩
    · rw [List.reverse_eq_append_iff] at hes
      simpa using hes
    · exact Ne.symm (bne_iff_ne.1 (hlater e (List.mem_reverse.1 he)))
  · rintro ⟨before, after, rfl, hafter⟩
    refine ⟨after.reverse, before.reverse, by simp, fun e he => bne_iff_ne.2 ?_⟩
    exact Ne.symm (hafter e (List.mem_reverse.1 he))

theorem get?_ofList_eq_none_iff {es : List (String × Operator)} {name : String} :
    (ofList es).get? name = none ↔ ∀ e ∈ es, e.1 ≠ name := by
  rw [get?_ofList, List.lookup_eq_none_iff]
  simp only [List.mem_reverse, bne_iff_ne, ne_comm]

/-- Two sequences of insertions give a look-up the same answer if and only if they have the same last
insertion under its name. -/
theorem get?_ofList_eq_iff {es fs : List (String × Operator)} {name : String} :
    (ofList es).get? name = (ofList fs).get? name ↔
      ∀ o, LastInsertion es name o ↔ LastInsertion fs name o := by
  simp only [← get?_ofList_eq_some_iff]
  exact Option.ext_iff

/-! ## Names and equality -/

theorem pairwise_names (t : OperatorTable) : t.names.Pairwise (· < ·) :=
  List.pairwise_map.2 t.ascending

theorem nodup_names (t : OperatorTable) : t.names.Nodup :=
  t.pairwise_names.imp fun {a b} (hlt : a < b) (heq : a = b) => String.lt_irrefl b (heq ▸ hlt)

theorem mem_names_iff {t : OperatorTable} {name : String} :
    name ∈ t.names ↔ ∃ o, t.get? name = some o := by
  rw [← contains_iff, contains, names, List.mem_map, List.any_eq_true]
  simp only [beq_iff_eq]

theorem mem_entries_iff {t : OperatorTable} {name : String} {o : Operator} :
    (name, o) ∈ t.entries ↔ t.get? name = some o := by
  rw [get?, List.lookup_eq_some_iff]
  constructor
  · intro h
    obtain ⟨before, after, hes⟩ := List.append_of_mem h
    refine ⟨before, after, hes, fun p hp => bne_iff_ne.2 fun hname => ?_⟩
    have hlt := t.ascending
    rw [hes, List.pairwise_append] at hlt
    exact String.lt_irrefl name (hname ▸ hlt.2.2 p hp (name, o) (List.mem_cons_self ..))
  · rintro ⟨before, after, hes, -⟩
    rw [hes]
    exact List.mem_append_right _ (List.mem_cons_self ..)

/-- Tables are equal as soon as they give every name the same operator. -/
theorem ext_get? {t u : OperatorTable} (h : ∀ name, t.get? name = u.get? name) : t = u := by
  have hnodup (t : OperatorTable) : t.entries.Nodup := t.nodup_names.of_map _
  have hperm : t.entries.Perm u.entries := by
    refine (List.perm_ext_iff_of_nodup (hnodup t) (hnodup u)).2 fun e => ?_
    rw [mem_entries_iff, mem_entries_iff, h]
  -- two lists in strictly ascending order with the same elements are the same list
  have hentries : t.entries = u.entries :=
    hperm.eq_of_pairwise (fun a b _ _ hab hba => absurd hba (String.lt_asymm hab)) t.ascending
      u.ascending
  cases t
  cases u
  cases hentries
  rfl

end OperatorTable

/-! ## What lowering sees of a table -/

/-- The name at the head of the list at a place. -/
def Site.head? (s : Site) : Option String :=
  match s.expr with
  | .list (.atom name :: _) => some name
  | _ => none

/-- The names that head the lists of a program where values are needed. -/
def Program.heads (p : Program) : List String := (Site.ofProgram p).filterMap Site.head?

namespace Compiler

/-- `Agree c d s`: the two compilers have the same limit and the same operator for the head of the
list at the place. -/
structure Agree (c d : Compiler) (s : Site) : Prop where
  limit : c.maxDepth = d.maxDepth
  operator {name : String} : s.head? = some name → c.operators.get? name = d.operators.get? name

variable {c d : Compiler}

theorem Agree.fault_eq {s : Site} (h : c.Agree d s) : s.fault c = s.fault d := by
  have hlimit := h.limit
  obtain ⟨e, within, depth⟩ := s
  match e with
  | .integer _ | .atom _ | .string _ => rfl
  | .list (.atom name :: operands) =>
    have ho : c.operators.get? name = d.operators.get? name := h.operator rfl
    simp only [Site.fault, hlimit, ho]
  | .list [] | .list (.integer _ :: _) | .list (.string _ :: _) | .list (.list _ :: _) =>
    simp only [Site.fault, hlimit]

mutual

/-- Two compilers that agree at every place of an expression lower it in the same way. -/
theorem lower_congr (within : Option Expr) (depth : Nat) (e : Expr)
    (h : ∀ s ∈ Site.ofExpr within depth e, c.Agree d s) :
    c.lower within depth e = d.lower within depth e := by
  obtain ⟨below, hb⟩ := Site.exists_ofExpr_eq_cons within depth e
  have hs : c.Agree d ⟨e, within, depth⟩ := h _ (by rw [hb]; exact List.mem_cons_self ..)
  obtain ⟨err, hf, hl⟩ | ⟨hf, hc⟩ := c.lower_cases ⟨e, within, depth⟩
  · obtain ⟨err', hf', hl'⟩ | ⟨hf', -⟩ := d.lower_cases ⟨e, within, depth⟩
    · rw [← hs.fault_eq, hf] at hf'
      cases hf'
      exact hl.trans hl'.symm
    · rw [← hs.fault_eq, hf] at hf'
      cases hf'
  · cases hc with
    | integer hv => rw [lower_integer c within depth hv, lower_integer d within depth hv]
    | @application name o x xs hd ho hm =>
      have hd : depth < c.maxDepth := hd
      have hd' : depth < d.maxDepth := hs.limit ▸ hd
      have ho' : d.operators.get? name = some o := (hs.operator rfl).symm.trans ho
      rw [Site.ofExpr, List.forall_mem_cons, Site.ofExprs, List.forall_mem_append] at h
      rw [lower_application c within hd ho hm, lower_application d within hd' ho' hm]
      simp only [lower_congr _ _ x h.2.1, lowerRest_congr _ _ o.op xs h.2.2]
termination_by sizeOf e

theorem lowerRest_congr (within : Expr) (depth : Nat) (op : BinaryOp) (es : List Expr)
    (h : ∀ s ∈ Site.ofExprs (some within) depth es, c.Agree d s) :
    c.lowerRest within depth op es = d.lowerRest within depth op es := by
  cases es with
  | nil => rw [lowerRest, lowerRest]
  | cons e es =>
    rw [Site.ofExprs, List.forall_mem_append] at h
    rw [lowerRest, lowerRest, lower_congr _ _ e h.1, lowerRest_congr _ _ _ es h.2]
termination_by sizeOf es

end

theorem lowerProgram_congr {p : Program} (h : ∀ s ∈ Site.ofProgram p, c.Agree d s) :
    c.lowerProgram p = d.lowerProgram p := by
  induction p with
  | nil => rfl
  | cons e es ih =>
    rw [Site.ofProgram, Site.ofExprs, List.forall_mem_append] at h
    have he := lower_congr none 0 e h.1
    cases es with
    | nil => rw [lowerProgram, lowerProgram, he]
    | cons e' es =>
      rw [lowerProgram, he, ih h.2]
      · symm
        rw [lowerProgram]
        exact List.cons_ne_nil _ _
      · exact List.cons_ne_nil _ _

/-- Tables that give the heads of a program the same operators give it the same code, or refuse it for
the same fault. -/
theorem compile_congr {t u : OperatorTable} {p : Program}
    (h : ∀ name ∈ p.heads, t.get? name = u.get? name) (limit : Nat) :
    (⟨t, limit⟩ : Compiler).compile p = (⟨u, limit⟩ : Compiler).compile p := by
  have hagree : ∀ s ∈ Site.ofProgram p, Agree ⟨t, limit⟩ ⟨u, limit⟩ s := fun s hs =>
    ⟨rfl, fun hname => h _ (List.mem_filterMap.2 ⟨s, hs, hname⟩)⟩
  unfold compile compileTraced
  rw [lowerProgram_congr hagree]

end Compiler

/-! ## Main statement -/

namespace OperatorTable

/-- A table depends on the last insertion under each name alone. A look-up gives the operator of that
insertion, and an insertion gives what a look-up gave just before. Each inserted name is listed
exactly once and no other name is; a message shows them in ascending order with a space between any
two. However operators are made, none goes without an operand. Two sequences of insertions give the
same table if and only if they have the same last insertions, and they give a program the same result
as soon as they have them under the heads of its lists. -/
theorem table_of_last_insertions (es : List (String × Operator)) :
    let t := ofList es
    (∀ name o, t.get? name = some o ↔ LastInsertion es name o) ∧
    (∀ name, t.get? name = none ↔ ∀ e ∈ es, e.1 ≠ name) ∧
    (∀ name o, t.insert name o = (t.get? name, ofList (es ++ [(name, o)]))) ∧
    (∀ name, t.contains name = true ↔ ∃ o, t.get? name = some o) ∧
    (∀ name, t.names.count name = if name ∈ es.map (·.1) then 1 else 0) ∧
    (t.known = " ".intercalate t.names ∧ t.names.Pairwise (· < ·)) ∧
    ((∀ op, (Operator.leftFold op).op = op ∧ (Operator.leftFold op).minOperands = 2) ∧
      (∀ (o : Operator) n, (o.withMinOperands n).op = o.op ∧
        (o.withMinOperands n).minOperands = max n 1) ∧
      ∀ name o, t.get? name = some o → 1 ≤ o.minOperands) ∧
    ∀ fs, (t = ofList fs ↔ ∀ name o, LastInsertion es name o ↔ LastInsertion fs name o) ∧
      ∀ p : Program, (∀ name ∈ p.heads, ∀ o, LastInsertion es name o ↔ LastInsertion fs name o) →
        ∀ limit, (⟨t, limit⟩ : Compiler).compile p = (⟨ofList fs, limit⟩ : Compiler).compile p := by
  intro t
  refine ⟨fun _ _ => get?_ofList_eq_some_iff, fun _ => get?_ofList_eq_none_iff, fun name o => ?_,
    fun _ => contains_iff, fun name => ?_, ⟨rfl, t.pairwise_names⟩,
    ⟨fun _ => ⟨rfl, rfl⟩, fun _ _ => ⟨rfl, rfl⟩, fun _ o _ => o.one_le⟩, fun fs => ⟨?_, ?_⟩⟩
  · rw [← insert_fst, ofList_concat]
  · have hmem : name ∈ t.names ↔ name ∈ es.map (·.1) := by
      rw [mem_names_iff, ← Option.isSome_iff_exists, ← Option.ne_none_iff_isSome, Ne,
        get?_ofList_eq_none_iff]
      simp
    rw [t.nodup_names.count]
    simp only [hmem]
  · constructor
    · rintro heq name
      exact get?_ofList_eq_iff.1 (congrArg (get? · name) heq)
    · intro hlast
      exact ext_get? fun name => get?_ofList_eq_iff.2 (hlast name)
  · intro p hlast limit
    exact Compiler.compile_congr (fun name hname => get?_ofList_eq_iff.2 (hlast name hname)) limit

/-- Names that come in two orders, one of them inserted twice; a third name, which the program does not
use, has another operator in the two tables. -/
theorem table_of_last_insertions_reordered :
    let es := [("b", .leftFold .add), ("a", .leftFold .sub), ("b", .leftFold .mul)]
    let fs := [("c", .leftFold .add), ("b", .leftFold .mul), ("a", .leftFold .sub)]
    let p : Program := [.list [.atom "b", .integer 2, .list [.atom "a", .integer 3, .integer 4]]]
    (ofList es).get? "b" = some (.leftFold .mul) ∧ (ofList es).known = "a b" ∧
      p.heads = ["b", "a"] ∧
      (⟨ofList es, 2⟩ : Compiler).compile p = (⟨ofList fs, 2⟩ : Compiler).compile p := by
  intro es fs p
  have hheads : p.heads = ["b", "a"] := rfl
  have hlast : ∀ name ∈ p.heads, ∀ o, LastInsertion es name o ↔ LastInsertion fs name o := by
    rw [hheads]
    simp only [List.forall_mem_cons, ← get?_ofList_eq_iff]
    exact ⟨rfl, rfl, by simp⟩
  obtain ⟨hget, -, -, -, -, -, -, hfs⟩ := table_of_last_insertions es
  refine ⟨(hget "b" _).2 ⟨es.take 2, [], rfl, by simp⟩, rfl, hheads, ?_⟩
  exact (hfs fs).2 p hlast 2

end OperatorTable

end StackLisp
