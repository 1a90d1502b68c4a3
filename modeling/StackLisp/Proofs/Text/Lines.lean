/-
Lines that are put together and cut again. Where no line holds a line feed or a carriage return,
cutting gives back the lines that were put together. A line feed after the last line makes no
difference; without it the last line must not be empty, as it would not show.
-/
import StackLisp.Text.Lines

namespace StackLisp.Text

/-- A text that stands on one line. -/
def IsLine (s : String) : Prop := '\n' ∉ s.toList ∧ '\r' ∉ s.toList

instance (s : String) : Decidable (IsLine s) := inferInstanceAs (Decidable (_ ∧ _))

theorem IsLine.append {s t : String} (hs : IsLine s) (ht : IsLine t) : IsLine (s ++ t) := by
  unfold IsLine at *
  simp only [String.toList_append, List.mem_append, not_or]
  exact ⟨⟨hs.1, ht.1⟩, hs.2, ht.2⟩

theorem isLine_intercalate {sep : String} (hsep : IsLine sep) {ls : List String}
    (h : ∀ l ∈ ls, IsLine l) : IsLine (sep.intercalate ls) := by
  induction ls with
  | nil => exact ⟨List.not_mem_nil, List.not_mem_nil⟩
  | cons l ls ih =>
    rw [List.forall_mem_cons] at h
    cases ls with
    | nil => exact h.1
    | cons l' ls =>
      rw [String.intercalate_cons_cons]
      exact (h.1.append hsep).append (ih h.2)

theorem isDigit_of_mem_repr {n : Nat} {c : Char} (h : c ∈ n.repr.toList) : c.isDigit = true := by
  rw [Nat.repr_eq_ofList_toDigits, String.toList_ofList] at h
  exact Nat.isDigit_of_mem_toDigits (by decide) (by decide) h

theorem isLine_repr (n : Nat) : IsLine n.repr :=
  ⟨fun h => absurd (isDigit_of_mem_repr h) (by decide),
    fun h => absurd (isDigit_of_mem_repr h) (by decide)⟩

/-! ## Cutting -/

theorem cutLines_cons {c : Char} (hn : c ≠ '\n') (hr : c ≠ '\r') {r line : List Char}
    {rest : List (List Char)} (h : cutLines r = line :: rest) :
    cutLines (c :: r) = (c :: line) :: rest := by
  rw [cutLines, h]
  · exact hn
  · intro _ hc
    exact absurd hc hr

/-- The characters up to a line feed are a line. -/
theorem cutLines_append_newline {cs : List Char} (hn : '\n' ∉ cs) (hr : '\r' ∉ cs)
    (rest : List Char) : cutLines (cs ++ '\n' :: rest) = cs :: cutLines rest := by
  induction cs with
  | nil => rw [List.nil_append, cutLines]
  | cons c cs ih =>
    rw [List.mem_cons, not_or] at hn hr
    exact cutLines_cons (Ne.symm hn.1) (Ne.symm hr.1) (ih hn.2 hr.2)

theorem cutLines_last {cs : List Char} (hn : '\n' ∉ cs) (hr : '\r' ∉ cs) (hne : cs ≠ []) :
    cutLines cs = [cs] := by
  induction cs with
  | nil => exact absurd rfl hne
  | cons c cs ih =>
    rw [List.mem_cons, not_or] at hn hr
    cases cs with
    | nil =>
      rw [cutLines, cutLines]
      · exact Ne.symm hn.1
      · intro _ hc
        exact absurd hc.symm hr.1
    | cons d cs =>
      exact cutLines_cons (Ne.symm hn.1) (Ne.symm hr.1) (ih hn.2 hr.2 (List.cons_ne_nil d cs))

theorem lines_append_newline {l : String} (h : IsLine l) (rest : String) :
    lines (l ++ "\n" ++ rest) = l :: lines rest := by
  have htext : (l ++ "\n" ++ rest).toList = l.toList ++ '\n' :: rest.toList := by simp
  rw [lines, htext, cutLines_append_newline h.1 h.2, List.map_cons, String.ofList_toList]
  rfl

theorem lines_last {l : String} (h : IsLine l) (hne : l ≠ "") : lines l = [l] := by
  have hcs : l.toList ≠ [] := by simpa using hne
  rw [lines, cutLines_last h.1 h.2 hcs, List.map_singleton, String.ofList_toList]

/-! ## Putting together -/

theorem unlines_cons_cons (l l' : String) (ls : List String) :
    unlines (l :: l' :: ls) = l ++ "\n" ++ unlines (l' :: ls) := String.intercalate_cons_cons

/-- Each line but the first has a line feed before it. -/
theorem unlines_cons (l : String) (ls : List String) :
    unlines (l :: ls) = l ++ String.join (ls.map ("\n" ++ ·)) := by
  induction ls generalizing l with
  | nil => rw [List.map_nil, String.join_nil, String.append_empty]; rfl
  | cons l' ls ih =>
    rw [unlines_cons_cons, ih, List.map_cons, String.join_cons]
    simp only [String.append_assoc]

/-- Lines with a line feed after the last one are cut again, and so is what follows them. -/
theorem lines_unlines_append {ls : List String} (h : ∀ l ∈ ls, IsLine l) (hne : ls ≠ [])
    (rest : String) : lines (unlines ls ++ "\n" ++ rest) = ls ++ lines rest := by
  induction ls with
  | nil => exact absurd rfl hne
  | cons l ls ih =>
    rw [List.forall_mem_cons] at h
    cases ls with
    | nil => exact lines_append_newline h.1 rest
    | cons l' ls =>
      rw [unlines_cons_cons, String.append_assoc, String.append_assoc, lines_append_newline h.1,
        ← String.append_assoc, ih h.2 (List.cons_ne_nil _ _)]
      rfl

theorem lines_unlines_newline {ls : List String} (h : ∀ l ∈ ls, IsLine l) (hne : ls ≠ []) :
    lines (unlines ls ++ "\n") = ls := by
  have hlines := lines_unlines_append h hne ""
  have hnone : lines "" = [] := rfl
  rwa [String.append_empty, hnone, List.append_nil] at hlines

theorem lines_unlines {ls : List String} (h : ∀ l ∈ ls, IsLine l) (hlast : ls.getLast? ≠ some "") :
    lines (unlines ls) = ls := by
  induction ls with
  | nil => rfl
  | cons l ls ih =>
    rw [List.forall_mem_cons] at h
    cases ls with
    | nil =>
      have hl : l ≠ "" := by simpa using hlast
      exact lines_last h.1 hl
    | cons l' ls =>
      rw [List.getLast?_cons_cons] at hlast
      rw [unlines_cons_cons, lines_append_newline h.1, ih h.2 hlast]

end StackLisp.Text
