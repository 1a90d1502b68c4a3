/-
Ranges of draws. A draw has a range if every value that it ever gives is in the range, whatever the bytes
and even when they run out, and if for every value of the range there are bytes from which the draw
takes this value and nothing more. Ranges of parts make the range of the whole, since the bytes of the
parts can be put one behind the other.
-/
import Mathlib.Algebra.Ring.Nat
import Mathlib.Data.List.GetD
import StackLisp.Draw.Basic

namespace StackLisp.Draw

variable {α β : Type}

/-- The draw gives the values with a property, and no others. -/
structure HasRange (d : Draw α) (P : α → Prop) : Prop where
  sound : ∀ bs x rest, d bs = some (x, rest) → P x
  complete : ∀ x, P x → ∃ bs, ∀ rest, d (bs ++ rest) = some (x, rest)

theorem bind_eq_some_iff {d : Draw α} {f : α → Draw β} {bs : List UInt8} {out : β × List UInt8} :
    (d >>= f) bs = some out ↔ ∃ x mid, d bs = some (x, mid) ∧ f x mid = some out := by
  show (d bs).bind (fun p => f p.1 p.2) = some out ↔ _
  rw [Option.bind_eq_some_iff]
  constructor
  · rintro ⟨⟨x, mid⟩, hd, hf⟩; exact ⟨x, mid, hd, hf⟩
  · rintro ⟨x, mid, hd, hf⟩; exact ⟨(x, mid), hd, hf⟩

namespace HasRange

theorem iff {d : Draw α} {P : α → Prop} (h : HasRange d P) (x : α) :
    (∃ bs rest, d bs = some (x, rest)) ↔ P x := by
  constructor
  · rintro ⟨bs, rest, hd⟩
    exact h.sound bs x rest hd
  · intro hx
    obtain ⟨bs, hd⟩ := h.complete x hx
    exact ⟨bs ++ [], [], hd []⟩

theorem congr {d : Draw α} {P Q : α → Prop} (h : HasRange d P) (hpq : ∀ x, P x ↔ Q x) :
    HasRange d Q where
  sound bs x rest hd := (hpq x).1 (h.sound bs x rest hd)
  complete x hx := h.complete x ((hpq x).2 hx)

/-! ## Composed draws -/

theorem pure (a : α) : HasRange (Pure.pure a) (· = a) where
  sound bs x rest hd := by cases hd; rfl
  complete x hx := ⟨[], fun rest => by rw [hx]; rfl⟩

theorem bind {d : Draw α} {f : α → Draw β} {P : α → Prop} {Q : α → β → Prop} (hd : HasRange d P)
    (hf : ∀ x, P x → HasRange (f x) (Q x)) : HasRange (d >>= f) (fun y => ∃ x, P x ∧ Q x y) where
  sound bs y rest h := by
    obtain ⟨x, mid, hx, hy⟩ := bind_eq_some_iff.1 h
    have hp := hd.sound bs x mid hx
    exact ⟨x, hp, (hf x hp).sound mid y rest hy⟩
  complete y h := by
    obtain ⟨x, hp, hq⟩ := h
    obtain ⟨front, hfront⟩ := hd.complete x hp
    obtain ⟨back, hback⟩ := (hf x hp).complete y hq
    refine ⟨front ++ back, fun rest => bind_eq_some_iff.2 ⟨x, back ++ rest, ?_, hback rest⟩⟩
    rw [List.append_assoc, hfront]

theorem map {d : Draw α} {P : α → Prop} (hd : HasRange d P) (f : α → β) :
    HasRange (do return f (← d)) (fun y => ∃ x, P x ∧ y = f x) :=
  hd.bind fun x _ => pure (f x)

theorem times {d : Draw α} {P : α → Prop} (hd : HasRange d P) (n : Nat) :
    HasRange (d.times n) (fun xs => xs.length = n ∧ ∀ x ∈ xs, P x) := by
  induction n with
  | zero =>
    refine (pure []).congr fun xs => ?_
    constructor
    · rintro rfl; simp
    · rintro ⟨hl, -⟩; exact List.length_eq_zero_iff.1 hl
  | succ n ih =>
    refine (hd.bind fun x _ => ih.map (x :: ·)).congr fun xs => ?_
    constructor
    · rintro ⟨x, hx, xs, ⟨rfl, hxs⟩, rfl⟩
      exact ⟨rfl, List.forall_mem_cons.2 ⟨hx, hxs⟩⟩
    · rintro ⟨hl, hxs⟩
      obtain ⟨x, xs, rfl⟩ := List.exists_cons_of_length_eq_add_one hl
      rw [List.forall_mem_cons] at hxs
      exact ⟨x, hxs.1, xs, ⟨Nat.succ.inj hl, hxs.2⟩, rfl⟩

end HasRange

/-! ## Numbers -/

theorem littleEndian_lt (bs : List UInt8) : littleEndian bs < 256 ^ bs.length := by
  induction bs with
  | nil => decide
  | cons b bs ih =>
    have hb : b.toNat < 256 := b.toNat_lt
    rw [littleEndian, List.length_cons, Nat.pow_succ]
    omega

/-- Every number below `256 ^ n` is written by `n` bytes. -/
theorem exists_littleEndian (n : Nat) : ∀ v < 256 ^ n, ∃ bs, bs.length = n ∧ littleEndian bs = v := by
  induction n with
  | zero =>
    intro v hv
    exact ⟨[], rfl, (Nat.lt_one_iff.1 hv).symm⟩
  | succ n ih =>
    intro v hv
    rw [Nat.pow_succ] at hv
    obtain ⟨bs, hl, hbs⟩ := ih (v / 256) (by omega)
    refine ⟨UInt8.ofNat (v % 256) :: bs, by rw [List.length_cons, hl], ?_⟩
    have hb : (UInt8.ofNat (v % 256)).toNat = v % 256 := by
      rw [UInt8.toNat_ofNat']
      omega
    rw [littleEndian, hb, hbs]
    omega

theorem hasRange_bytes (n : Nat) : HasRange (bytes n) (fun bs => bs.length = n) where
  sound bs x rest hd := by
    unfold bytes at hd
    split at hd
    · cases hd
    · cases hd
      rw [List.length_take]
      omega
  complete x hx := by
    refine ⟨x, fun rest => ?_⟩
    unfold bytes
    rw [if_neg (by simp [hx]), ← hx, List.take_left, List.drop_left]

/-- The bytes that are missing count as zeros, so that a word is always drawn. -/
theorem hasRange_word (n : Nat) : HasRange (word n) (· < 256 ^ n) where
  sound bs x rest hd := by
    cases hd
    calc littleEndian (bs.take n) < 256 ^ (bs.take n).length := littleEndian_lt _
      _ ≤ 256 ^ n := Nat.pow_le_pow_right (by decide) (List.length_take_le n bs)
  complete x hx := by
    obtain ⟨bs, rfl, rfl⟩ := exists_littleEndian n x hx
    refine ⟨bs, fun rest => ?_⟩
    unfold word
    rw [List.take_left, List.drop_left]

theorem hasRange_upTo {n : Nat} (hn : n < 256) : HasRange (upTo n) (· ≤ n) := by
  unfold upTo
  split
  · rename_i h0
    exact (HasRange.pure 0).congr fun x => by omega
  · refine ((hasRange_word 1).map (· % (n + 1))).congr fun x => ?_
    constructor
    · rintro ⟨y, -, rfl⟩
      exact Nat.le_of_lt_succ (Nat.mod_lt y (Nat.succ_pos n))
    · intro hx
      exact ⟨x, by omega, (Nat.mod_eq_of_lt (Nat.lt_succ_of_le hx)).symm⟩

theorem hasRange_choose (x : α) {xs : List α} (hn : xs.length < 256) :
    HasRange (choose x xs) (· ∈ x :: xs) := by
  refine ((hasRange_upTo hn).map fun i => (x :: xs).getD i x).congr fun y => ?_
  rw [List.mem_iff_getElem]
  constructor
  · rintro ⟨i, hi, rfl⟩
    have hlt : i < (x :: xs).length := Nat.lt_succ_of_le hi
    exact ⟨i, hlt, (List.getD_eq_getElem _ _ hlt).symm⟩
  · rintro ⟨i, hlt, rfl⟩
    exact ⟨i, Nat.le_of_lt_succ hlt, (List.getD_eq_getElem _ _ hlt).symm⟩

end StackLisp.Draw
