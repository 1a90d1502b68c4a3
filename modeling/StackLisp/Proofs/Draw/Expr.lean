/-
The range of drawn expressions. Each kind of leaf has its range, and the lists of one level have theirs
from the expressions of the level below. So an expression can be drawn if and only if it is nested at
most six deep and keeps the bounds on its lists, atoms, integers and strings. All of these can be
written and read back.
-/
import Mathlib.Algebra.Ring.Int.Defs
import StackLisp.Draw.Expr
import StackLisp.Proofs.Draw.Range
import StackLisp.Proofs.Reading.RoundTrip

namespace StackLisp

/-- The expressions with short atoms and strings, integers below 2^192 and lists of at most four
elements. -/
inductive Expr.Small : Expr → Prop
  | atom {name : String} : name.toList ∈ Token.Kind.atom.rule → 1 ≤ name.length → name.length ≤ 9 →
      Small (.atom name)
  | integer {value : Int} : 0 ≤ value → value < 2 ^ 192 → Small (.integer value)
  | string {value : String} : value.length ≤ 12 →
      (∀ c ∈ value.toList, 0x20 ≤ c.toNat ∧ c.toNat ≤ 0x7E) → Small (.string value)
  | list {es : List Expr} : es.length ≤ 4 → (∀ e ∈ es, Small e) → Small (.list es)

namespace Draw

/-! ## Characters -/

/-- The characters of a list are those of a class, all of them below 128, and one byte is enough to
choose among them. -/
def Lists (x : Char) (xs : List Char) (p : Char → Bool) : Prop :=
  xs.length < 256 ∧ (∀ n ∈ (x :: xs).map Char.toNat, n < 128) ∧
    ∀ n < 128, n ∈ (x :: xs).map Char.toNat ↔ p (Char.ofNat n) = true

instance (x : Char) (xs : List Char) (p : Char → Bool) : Decidable (Lists x xs p) :=
  inferInstanceAs (Decidable (_ ∧ _ ∧ _))

theorem Lists.hasRange_choose {x : Char} {xs : List Char} {p : Char → Bool} (h : Lists x xs p)
    (hp : ∀ c, p c = true → c.toNat < 128) : HasRange (choose x xs) (fun c => p c = true) := by
  obtain ⟨hlen, hascii, hclass⟩ := h
  have hinj : Function.Injective Char.toNat := fun _ _ => Char.toNat_inj.1
  refine (Draw.hasRange_choose x hlen).congr fun c => ?_
  rw [← List.mem_map_of_injective hinj]
  constructor
  · intro hc
    have hn := (hclass c.toNat (hascii _ hc)).1 hc
    rwa [Char.ofNat_toNat] at hn
  · intro hc
    apply (hclass c.toNat (hp c hc)).2
    rwa [Char.ofNat_toNat]

theorem hasRange_atomStart :
    HasRange (choose 'a' atomStarts) (fun c => Lexeme.isAtomStart c = true) := by
  have h : Lists 'a' atomStarts Lexeme.isAtomStart := by decide +kernel
  refine h.hasRange_choose fun c hc => ?_
  obtain ⟨-, hle, -⟩ := Lexeme.toNat_of_isAtomStart hc
  omega

theorem hasRange_atomChar :
    HasRange (choose 'a' atomChars) (fun c => Lexeme.isAtomChar c = true) := by
  have h : Lists 'a' atomChars Lexeme.isAtomChar := by decide +kernel
  refine h.hasRange_choose fun c hc => ?_
  obtain ⟨-, hle⟩ := Lexeme.toNat_of_isAtomChar hc
  omega

theorem hasRange_printable : HasRange printable (fun c => 0x20 ≤ c.toNat ∧ c.toNat ≤ 0x7E) := by
  refine ((hasRange_upTo (by decide)).map fun i => Char.ofNat (0x20 + i)).congr fun c => ?_
  have hall : ∀ i < 0x5F, 0x20 ≤ (Char.ofNat (0x20 + i)).toNat ∧
      (Char.ofNat (0x20 + i)).toNat ≤ 0x7E := by decide
  constructor
  · rintro ⟨i, hi, rfl⟩
    exact hall i (Nat.lt_succ_of_le hi)
  · rintro ⟨hl, hu⟩
    refine ⟨c.toNat - 0x20, by omega, ?_⟩
    rw [Nat.add_sub_cancel' hl, Char.ofNat_toNat]

/-! ## Leaves -/

/-- The choice by which an expression of its kind is drawn. -/
def choice : Expr → Nat
  | .atom _ => 0
  | .integer _ => 1
  | .string _ => 2
  | .list _ => 3

theorem choice_le_two_iff {e : Expr} : choice e ≤ 2 ↔ e.depth = 0 := by
  cases e <;> simp [choice, Expr.depth]

theorem choice_le (e : Expr) : choice e ≤ 3 := by
  cases e <;> simp [choice]

theorem hasRange_atom : HasRange atom (fun e => e.Small ∧ choice e = 0) := by
  refine (hasRange_atomStart.bind fun c _ => (hasRange_upTo (by decide)).bind fun n _ =>
    (hasRange_atomChar.times n).map fun more => Expr.atom (String.ofList (c :: more))).congr
      fun e => ?_
  constructor
  · rintro ⟨c, hc, n, hn, more, ⟨rfl, hmore⟩, rfl⟩
    refine ⟨.atom ?_ ?_ ?_, rfl⟩
    · rw [String.toList_ofList]
      exact Text.mem_oneOf_mul.2 ⟨c, more, rfl, hc, Text.mem_kstar_oneOf.2 hmore⟩
    · rw [String.length_ofList, List.length_cons]
      omega
    · rw [String.length_ofList, List.length_cons]
      omega
  · rintro ⟨hs, he⟩
    cases hs with
    | @atom name hrule _ hlen =>
      obtain ⟨c, more, hname, hc, hmore⟩ := Text.mem_oneOf_mul.1 hrule
      have hl : more.length ≤ 8 := by
        rw [← String.length_toList, hname, List.length_cons] at hlen
        omega
      refine ⟨c, hc, more.length, hl, more, ⟨rfl, Text.mem_kstar_oneOf.1 hmore⟩, ?_⟩
      rw [← hname, String.ofList_toList]
    | integer | string | list => cases he

theorem hasRange_integer : HasRange integer (fun e => e.Small ∧ choice e = 1) := by
  refine ((hasRange_upTo (by decide)).bind fun n _ => (hasRange_bytes n).map fun bs =>
    Expr.integer (littleEndian bs)).congr fun e => ?_
  have hpow : (256 : Nat) ^ 24 = 2 ^ 192 := by decide
  constructor
  · rintro ⟨n, hn, bs, rfl, rfl⟩
    refine ⟨.integer (Int.natCast_nonneg _) ?_, rfl⟩
    have hlt : littleEndian bs < 2 ^ 192 := by
      calc littleEndian bs < 256 ^ bs.length := littleEndian_lt bs
        _ ≤ 256 ^ 24 := Nat.pow_le_pow_right (by decide) hn
        _ = 2 ^ 192 := hpow
    exact_mod_cast hlt
  · rintro ⟨hs, he⟩
    cases hs with
    | @integer value hl hu =>
      obtain ⟨v, rfl⟩ := Int.eq_ofNat_of_zero_le hl
      have hv : v < 256 ^ 24 := by rw [hpow]; exact_mod_cast hu
      -- as many bytes as there can be are enough for every value
      obtain ⟨bs, hlen, rfl⟩ := exists_littleEndian 24 v hv
      exact ⟨24, Nat.le_refl _, bs, hlen, rfl⟩
    | atom | string | list => cases he

theorem hasRange_string : HasRange string (fun e => e.Small ∧ choice e = 2) := by
  refine ((hasRange_upTo (by decide)).bind fun n _ => (hasRange_printable.times n).map fun cs =>
    Expr.string (String.ofList cs)).congr fun e => ?_
  constructor
  · rintro ⟨n, hn, cs, ⟨rfl, hcs⟩, rfl⟩
    exact ⟨.string (by simpa using hn) (by simpa using hcs), rfl⟩
  · rintro ⟨hs, he⟩
    cases hs with
    | @string value hlen hcs =>
      exact ⟨value.length, hlen, value.toList, ⟨String.length_toList, hcs⟩, by simp⟩
    | atom | integer | list => cases he

/-! ## Levels -/

/-- Lists of expressions of the level below. -/
theorem hasRange_list {levels : Nat}
    (h : HasRange (exprWithin levels) (fun e => e.depth ≤ levels ∧ e.Small)) :
    HasRange (do return Expr.list (← times (exprWithin levels) (← upTo 4)))
      (fun e => (e.depth ≤ levels + 1 ∧ e.Small) ∧ choice e = 3) := by
  refine ((hasRange_upTo (by decide)).bind fun n _ => (h.times n).map Expr.list).congr fun e => ?_
  constructor
  · rintro ⟨n, hn, es, ⟨rfl, hes⟩, rfl⟩
    refine ⟨⟨?_, .list hn fun e he => (hes e he).2⟩, rfl⟩
    rw [Expr.depth]
    exact Nat.succ_le_succ (Expr.depthAll_le_iff.2 fun e he => (hes e he).1)
  · rintro ⟨⟨hd, hs⟩, he⟩
    cases hs with
    | @list es hlen hes =>
      rw [Expr.depth] at hd
      have hdepth := Expr.depthAll_le_iff.1 (Nat.le_of_succ_le_succ hd)
      exact ⟨es.length, hlen, es, ⟨rfl, fun e he => ⟨hdepth e he, hes e he⟩⟩, rfl⟩
    | atom | integer | string => cases he

/-- A leaf is drawn alike on every level. -/
theorem HasRange.onLevel {d : Draw Expr} {k : Nat} (h : HasRange d (fun e => e.Small ∧ choice e = k))
    (hk : k ≤ 2) (levels : Nat) :
    HasRange d (fun e => (e.depth ≤ levels ∧ e.Small) ∧ choice e = k) := by
  refine h.congr fun e => ?_
  constructor
  · rintro ⟨hs, rfl⟩
    exact ⟨⟨by rw [choice_le_two_iff.1 hk]; exact Nat.zero_le _, hs⟩, rfl⟩
  · rintro ⟨⟨-, hs⟩, he⟩
    exact ⟨hs, he⟩

/-- The first choice is that of the kind of expression. On the lowest level there are no lists. -/
theorem hasRange_exprWithin (levels : Nat) :
    HasRange (exprWithin levels) (fun e => e.depth ≤ levels ∧ e.Small) := by
  induction levels with
  | zero =>
    refine ((hasRange_upTo (n := 2) (by decide)).bind
      (Q := fun k e => (e.depth ≤ 0 ∧ e.Small) ∧ choice e = k) fun k hk => ?_).congr fun e => ?_
    · obtain rfl | rfl | rfl : k = 0 ∨ k = 1 ∨ k = 2 := by omega
      · exact hasRange_atom.onLevel hk 0
      · exact hasRange_integer.onLevel hk 0
      · exact hasRange_string.onLevel hk 0
    · constructor
      · rintro ⟨k, -, h, -⟩
        exact h
      · intro h
        exact ⟨choice e, choice_le_two_iff.2 (Nat.le_zero.1 h.1), h, rfl⟩
  | succ levels ih =>
    refine ((hasRange_upTo (n := 3) (by decide)).bind
      (Q := fun k e => (e.depth ≤ levels + 1 ∧ e.Small) ∧ choice e = k) fun k hk => ?_).congr
        fun e => ?_
    · obtain rfl | rfl | rfl | rfl : k = 0 ∨ k = 1 ∨ k = 2 ∨ k = 3 := by omega
      · exact hasRange_atom.onLevel (by decide) _
      · exact hasRange_integer.onLevel (by decide) _
      · exact hasRange_string.onLevel (by decide) _
      · exact hasRange_list ih
    · constructor
      · rintro ⟨k, -, h, -⟩
        exact h
      · intro h
        exact ⟨choice e, choice_le e, h, rfl⟩

end Draw

/-! ## Reading back -/

theorem Expr.Small.representable {e : Expr} (h : e.Small) : e.Representable := by
  induction h with
  | atom hrule _ _ =>
    intro s hs
    obtain rfl := List.mem_singleton.1 hs
    exact hrule
  | integer hl _ =>
    intro s hs
    obtain rfl := List.mem_singleton.1 hs
    exact hl
  | string _ hcs =>
    intro s hs
    obtain rfl := List.mem_singleton.1 hs
    -- a line feed is no printable character
    intro hn
    exact absurd (hcs '\n' hn).1 (by decide)
  | @list es _ _ ih =>
    intro s hs
    rw [flatten, List.mem_cons, List.mem_append, List.mem_singleton] at hs
    rcases hs with rfl | hs | rfl
    · trivial
    · exact forall_mem_flattenAll.2 ih s hs
    · trivial

/-- An expression can be drawn from some bytes if and only if it is nested at most six deep, its lists
have at most four elements, its atoms at most nine characters, its integers are below 2^192, and its
strings have at most twelve characters, all of them printable. Each of them is read back from its
written form, as long as the limit allows the nesting. -/
theorem Draw.range_of_expr (e : Expr) :
    ((∃ bs rest, Draw.expr bs = some (e, rest)) ↔ e.depth ≤ 6 ∧ e.Small) ∧
    ((∃ bs rest, Draw.expr bs = some (e, rest)) →
      ∀ r : Reader, 6 ≤ r.maxDepth → r.parse e.render = .ok [e]) := by
  have hrange := (hasRange_exprWithin 6).iff e
  refine ⟨hrange, fun h r hr => ?_⟩
  obtain ⟨hd, hs⟩ := hrange.1 h
  exact Reader.parse_render hs.representable (Nat.le_trans hd hr)

/-- The bytes run out behind the first element; the second one is made of zeros. -/
theorem Draw.range_of_expr_short :
    let bs : List UInt8 := [3, 2, 1, 1, 255]
    let e : Expr := .list [.integer 255, .atom "a"]
    Draw.expr bs = some (e, []) ∧ e.depth ≤ 6 ∧ e.Small ∧
      ({} : Reader).parse e.render = .ok [e] := by
  intro bs e
  have hdrawn : Draw.expr bs = some (e, []) := rfl
  obtain ⟨hrange, hread⟩ := range_of_expr e
  obtain ⟨hd, hs⟩ := hrange.1 ⟨bs, [], hdrawn⟩
  exact ⟨hdrawn, hd, hs, hread ⟨bs, [], hdrawn⟩ {} (by decide)⟩

end StackLisp
