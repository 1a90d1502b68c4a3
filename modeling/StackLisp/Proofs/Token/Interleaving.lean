/-
Several scans side by side. Each scan keeps its own place, so that advancing one of them leaves the
others where they are. In whatever order some scans are advanced, each answers with the items of its
own source in turn, and with nothing once these are used up.
-/
import StackLisp.Proofs.Token.Scan

namespace StackLisp.Scan

/-! ## One scan alone -/

/-- What a scan answers to an advance that comes after `k` others. -/
def answer : Scan → Nat → Option Item
  | s, 0 => s.next.1
  | s, k + 1 => s.next.2.answer k

theorem ahead_of_ended {s : Scan} (h : s.next.1 = none) : s.next.2.ahead = [] := by
  unfold next at h ⊢
  simp only at h ⊢
  generalize (if s.tokenizer.skipsBlanks then s.passBlanks else s) = s' at h ⊢
  cases hs : s'.ahead with
  | nil => simp only [hs]
  | cons c r => simp only [hs] at h; cases h

theorem next_of_ahead_nil {s : Scan} (h : s.ahead = []) : s.next.1 = none := by
  obtain ⟨t, offset, ahead⟩ := s
  obtain rfl : ahead = [] := h
  exact next_nil offset

/-- A scan that has ended stays ended. -/
theorem answer_of_ended {s : Scan} (h : s.next.1 = none) (k : Nat) : s.answer k = none := by
  induction k generalizing s with
  | zero => exact h
  | succ k ih => exact ih (next_of_ahead_nil (ahead_of_ended h))

theorem Yields.answer_eq {s : Scan} {items : List Item} (h : Yields s items) (k : Nat) :
    s.answer k = items[k]? := by
  induction h generalizing k with
  | done hn => rw [answer_of_ended hn, List.getElem?_nil]
  | item hn _ ih =>
    cases k with
    | zero => rw [answer, hn, List.getElem?_cons_zero]
    | succ k => rw [answer, ih, List.getElem?_cons_succ]

/-! ## Several scans -/

/-- One step of a schedule: the scan in turn answers and moves on, and no other does. -/
theorem interleave_cons (scans : List Scan) (i : Nat) (schedule : List Nat) :
    interleave scans (i :: schedule) = (scans[i]?.bind fun s => s.next.1) ::
      interleave (scans.modify i fun s => s.next.2) schedule := by
  rw [interleave]
  cases hs : scans[i]? with
  | none =>
    rw [List.modify_eq_self (List.getElem?_eq_none_iff.1 hs)]
    rfl
  | some s =>
    have : Inhabited Scan := ⟨s⟩
    rw [List.modify_eq_set, hs]
    rfl

/-- After an advance, a scan is one answer further if it was its turn, and where it was if not. -/
theorem bind_answer_modify (scans : List Scan) (i j k : Nat) :
    ((scans.modify i fun s => s.next.2)[j]?.bind fun s => s.answer k) =
      scans[j]?.bind fun s => s.answer (k + if i = j then 1 else 0) := by
  rw [List.getElem?_modify]
  cases scans[j]? with
  | none => rfl
  | some s => by_cases hij : i = j <;> simp [hij, answer]

/-- Each answer is what the scan in turn gives alone, after as many advances as the schedule has made
of it so far. -/
theorem interleave_eq_answers (scans : List Scan) (schedule : List Nat) :
    interleave scans schedule = schedule.mapIdx fun n i =>
      scans[i]?.bind fun s => s.answer ((schedule.take n).count i) := by
  induction schedule generalizing scans with
  | nil => rfl
  | cons i schedule ih =>
    rw [interleave_cons, ih, List.mapIdx_cons]
    simp only [bind_answer_modify, List.take_zero, List.count_nil, List.take_succ_cons,
      List.count_cons, beq_iff_eq]
    rfl

/-- Scans do not interfere: whatever the schedule, the answer to an advance of a scan that was
advanced `k` times before is the item at `k` of its source, and none if there are not so many. -/
theorem interleave_eq_items (t : Tokenizer) (sources : List String) (schedule : List Nat) :
    interleave (sources.map t.scan) schedule = schedule.mapIdx fun n i =>
      sources[i]?.bind fun source => (t.items source)[(schedule.take n).count i]? := by
  rw [interleave_eq_answers]
  congr 1
  funext n i
  rw [List.getElem?_map]
  cases sources[i]? with
  | none => rfl
  | some source => exact (yields_items t source).answer_eq _

-- the scan of blanks has nothing to give, however often and whenever it is asked
example : interleave (["a", " "].map (Tokenizer.scan { skipsBlanks := true })) [1, 0, 1, 0] =
    [none, some (.token ⟨.atom, "a", ⟨0, 1⟩⟩), none, none] := by
  decide +kernel

end StackLisp.Scan
