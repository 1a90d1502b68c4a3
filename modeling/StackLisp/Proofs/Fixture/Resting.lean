/-
Fixtures that are written twice. A comment's place is shifted by the growth of its section, and the
lines of a section are counted with the comments when they are read, but without them when they are
written. So a fixture that is written again with the errors and outputs that it has already shifts by
its own comments: those among the errors go up, and those among the outputs go up or down by as much
as there are more of them in one section than in the other.

Main statement: a second writing changes nothing if and only if no comment can move any further.
-/
import StackLisp.Proofs.Fixture.Weaving

namespace StackLisp.Fixture

open Text (IsLine)

/-- `Rests top errors outputs second`: with `top` comments above the errors, no comment of the section
of outputs moves. Comments stand as they like if there are as many of them, after the outputs if there
are fewer, and before them if there is one more and it finds an error in its way. -/
inductive Rests (top : Nat) (errors outputs : List String) : List String → Prop
  | even {second : List String} : plain second = outputs →
      (second.filter isComment).length = top → Rests top errors outputs second
  | late {late : List String} : (∀ l ∈ late, isComment l = true) → late.length < top →
      Rests top errors outputs (outputs ++ late)
  | early {early : List String} : (∀ l ∈ early, isComment l = true) → early.length = top + 1 →
      errors ≠ [] → Rests top errors outputs (early ++ outputs)

/-! ## Sections that are woven as they stand -/

/-- `Stays place rest n lines out`: the lines and comments of `out` come out as they stand when they
are woven from line `n` on, with `rest` waiting behind them. -/
inductive Stays (place : Nat → Nat) (rest : List (Nat × String)) :
    Nat → List String → List String → Prop
  | done {n : Nat} : Stays place rest n [] []
  | comment {n : Nat} {c l : String} {lines out : List String} : isComment c = true →
      place n ≤ n → Stays place rest (n + 1) (l :: lines) out →
      Stays place rest n (l :: lines) (c :: out)
  | line {n : Nat} {l : String} {lines out : List String} : isComment l = false →
      (∀ c ∈ (commentsFrom (n + 1) out ++ rest).head?, n < place c.1) →
      Stays place rest (n + 1) lines out → Stays place rest n (l :: lines) (l :: out)

variable {place : Nat → Nat} {n : Nat} {rest : List (Nat × String)} {lines out : List String}

theorem Stays.woven (h : Stays place rest n lines out) :
    Woven place n (commentsFrom n out ++ rest) lines out rest := by
  induction h with
  | done => exact .done
  | comment hc hplace _ ih =>
    rw [commentsFrom_cons_comment hc]
    exact .comment hplace ih
  | line hl hnot _ ih =>
    rw [commentsFrom_cons_line hl]
    exact .line hnot ih

theorem Woven.stays {waiting : List (Nat × String)} (h : Woven place n waiting lines out rest)
    (hw : waiting = commentsFrom n out ++ rest) (hc : ∀ c ∈ waiting, isComment c.2 = true)
    (hl : ∀ l ∈ lines, isComment l = false) : Stays place rest n lines out := by
  induction h with
  | done => exact .done
  | @comment n c waiting rest l lines out hplace _ ih =>
    rw [List.forall_mem_cons] at hc
    obtain ⟨i, text⟩ := c
    rw [commentsFrom_cons_comment hc.1, List.cons_append, List.cons.injEq, Prod.mk.injEq] at hw
    obtain ⟨⟨rfl, -⟩, rfl⟩ := hw
    exact .comment hc.1 hplace (ih rfl hc.2 hl)
  | @line n waiting rest l lines out hnot _ ih =>
    rw [List.forall_mem_cons] at hl
    rw [commentsFrom_cons_line hl.1] at hw
    subst hw
    exact .line hl.1 hnot (ih rfl hc hl.2)

/-- What is waiting behind the comments of a section is still waiting when they are woven into it. -/
theorem Woven.rest_eq {rest' : List (Nat × String)}
    (h : Woven place n (commentsFrom n out ++ rest) lines out rest')
    (hrest : ∀ c ∈ rest, isComment c.2 = true) (hl : ∀ l ∈ lines, isComment l = false) :
    rest' = rest := by
  have hc : ∀ c ∈ commentsFrom n out ++ rest, isComment c.2 = true :=
    List.forall_mem_append.2 ⟨fun c hc => (of_mem_commentsFrom hc).2.2, hrest⟩
  obtain ⟨-, taken, htaken, hout⟩ := h.content hc hl
  have hlength : (commentsFrom n out).length = taken.length := by
    rw [length_commentsFrom, hout, List.length_map]
  exact (List.append_inj htaken hlength).2.symm

/-! ## What makes comments move -/

namespace Stays

/-- Where no comment belongs at its own line and none belongs before the first line, there are no
comments. -/
theorem eq_lines (h : Stays place rest n lines out)
    (hne : ∀ c ∈ commentsFrom n out, place c.1 ≠ c.1)
    (hfirst : ∀ c ∈ (commentsFrom n out ++ rest).head?, n ≤ place c.1) : out = lines := by
  induction h with
  | done => rfl
  | @comment n c l lines out hc hplace _ ih =>
    rw [commentsFrom_cons_comment hc] at hne hfirst
    have hle : n ≤ place n := hfirst (n, c) rfl
    exact absurd (Nat.le_antisymm hplace hle) (hne (n, c) (List.mem_cons_self ..))
  | @line n l lines out hl hnot _ ih =>
    rw [commentsFrom_cons_line hl] at hne
    rw [ih hne hnot]

/-- Where all comments belong further up, no comment stands below a line. -/
theorem eq_comments_append (h : Stays place rest n lines out)
    (hlt : ∀ c ∈ commentsFrom n out, n < c.1 → place c.1 < c.1)
    (hlines : ∀ l ∈ lines, isComment l = false) : out = out.filter isComment ++ lines := by
  induction h with
  | done => rfl
  | @comment n c l lines out hc hplace _ ih =>
    rw [commentsFrom_cons_comment hc, List.forall_mem_cons] at hlt
    have hout := ih (fun c hc hn => hlt.2 c hc (Nat.lt_of_succ_lt hn)) hlines
    rw [List.filter_cons_of_pos hc, List.cons_append, ← hout]
  | @line n l lines out hl hnot h ih =>
    rw [commentsFrom_cons_line hl] at hlt
    have hout : out = lines := h.eq_lines
      (fun c hc => Nat.ne_of_lt (hlt c hc (of_mem_commentsFrom hc).1)) hnot
    rw [hout, filter_isComment_eq_nil hlines, List.nil_append]

/-- The comments behind a section belong no further up than behind its last line. -/
theorem le_place_of_rest (h : Stays place rest n lines out) (hne : lines ≠ []) :
    ∀ c ∈ rest.head?, n + out.length ≤ place c.1 := by
  induction h with
  | done => exact absurd rfl hne
  | comment _ _ _ ih =>
    intro c hc
    have hle := ih hne c hc
    rw [List.length_cons]
    omega
  | @line n l lines out hl hnot h ih =>
    intro c hc
    rw [List.length_cons]
    cases h with
    | done => exact hnot c hc
    | comment hc' hplace h =>
      have hle := ih (List.cons_ne_nil _ _) c hc
      omega
    | line hl' hnot' h =>
      have hle := ih (List.cons_ne_nil _ _) c hc
      omega

/-! ## What keeps comments in place -/

theorem of_lines (hlines : ∀ l ∈ lines, isComment l = false)
    (hrest : ∀ c ∈ rest.head?, n + lines.length ≤ place c.1) : Stays place rest n lines lines := by
  induction lines generalizing n with
  | nil => exact .done
  | cons l lines ih =>
    rw [List.forall_mem_cons] at hlines
    rw [List.length_cons] at hrest
    refine .line hlines.1 ?_ (ih hlines.2 fun c hc => ?_)
    · rw [commentsFrom_eq_nil hlines.2, List.nil_append]
      intro c hc
      have hle := hrest c hc
      omega
    · have hle := hrest c hc
      omega

theorem comments_append {top : List String} (htop : ∀ l ∈ top, isComment l = true)
    (hplace : ∀ i, i < n + top.length → place i ≤ i) (hne : lines ≠ [])
    (h : Stays place rest (n + top.length) lines out) : Stays place rest n lines (top ++ out) := by
  induction top generalizing n with
  | nil => exact h
  | cons c top ih =>
    rw [List.forall_mem_cons] at htop
    rw [List.length_cons, ← Nat.add_assoc, Nat.add_right_comm] at hplace h
    obtain ⟨l, lines, rfl⟩ := List.exists_cons_of_ne_nil hne
    exact .comment htop.1 (hplace n (by omega)) (ih htop.2 hplace h)

/-- Where comments belong at their own lines, they stay there, and the last ones come behind. -/
theorem exists_of_place_eq {second : List String} (hplace : ∀ i, n ≤ i → place i = i) :
    ∃ out late, second = out ++ late ∧ (∀ l ∈ late, isComment l = true) ∧
      Stays place (commentsFrom (n + out.length) late) n (plain second) out := by
  induction second generalizing n with
  | nil => exact ⟨[], [], rfl, by simp, .done⟩
  | cons x second ih =>
    obtain ⟨out, late, rfl, hlate, h⟩ := ih fun i hi => hplace i (Nat.le_of_succ_le hi)
    have hlength : n + 1 + out.length = n + (x :: out).length := by
      rw [List.length_cons]
      omega
    rw [hlength] at h
    cases hx : isComment x with
    | true =>
      have hplain : plain (x :: (out ++ late)) = plain (out ++ late) :=
        List.filter_cons_of_neg (by simp [hx])
      rw [hplain]
      cases hlines : plain (out ++ late) with
      | nil =>
        -- there is no line left before which the comment could be put
        rw [hlines] at h
        cases h
        exact ⟨[], x :: late, rfl, List.forall_mem_cons.2 ⟨hx, hlate⟩, .done⟩
      | cons l lines =>
        rw [hlines] at h
        exact ⟨x :: out, late, rfl, hlate, .comment hx (Nat.le_of_eq (hplace n (Nat.le_refl n))) h⟩
    | false =>
      have hplain : plain (x :: (out ++ late)) = x :: plain (out ++ late) :=
        List.filter_cons_of_pos (by simp [hx])
      rw [hplain]
      refine ⟨x :: out, late, rfl, hlate, .line hx ?_ h⟩
      intro c hc
      have hmem := List.mem_of_mem_head? hc
      have hle : n + 1 ≤ c.1 := by
        rcases List.mem_append.1 hmem with hmem | hmem
        · exact (of_mem_commentsFrom hmem).1
        · have hle := (of_mem_commentsFrom hmem).1
          omega
      rw [hplace c.1 (by omega)]
      exact hle

end Stays

/-! ## Both sections -/

variable {errors outputs first second late : List String} {a b : Nat}

theorem isComment_of_mem_append_pad (h : plain first = errors) :
    ∀ l ∈ errors ++ pad errors, isComment l = false :=
  List.forall_mem_append.2 ⟨isComment_of_plain_eq h, fun _ hl => isComment_of_mem_pad hl⟩

theorem commentsFrom_append_pad (n : Nat) (first errors : List String) :
    commentsFrom n (first ++ pad errors) = commentsFrom n first := by
  rw [commentsFrom_append, commentsFrom_eq_nil fun _ hl => isComment_of_mem_pad hl,
    List.append_nil]

/-- A fixture is written as it stands if and only if each of its first two sections stays. -/
theorem stitched_self_iff (h₁ : plain first = errors) (h₂ : plain second = outputs) :
    Stitched place (commentsFrom 0 first ++ commentsFrom (first.length + 1) second) errors outputs
        first second ↔
      Stays place (commentsFrom (first.length + 1) second) 0 (errors ++ pad errors)
        (first ++ pad errors) ∧
      ∃ out late, second = out ++ late ∧ (∀ l ∈ late, isComment l = true) ∧
        Stays place (commentsFrom (first.length + 1 + out.length) late) (first.length + 1) outputs
          out := by
  rw [← commentsFrom_append_pad 0 first errors]
  constructor
  · intro h
    cases h with
    | @intro out rest late hw₁ hw₂ =>
      have hc : ∀ {n ls}, ∀ c ∈ commentsFrom n ls, isComment c.2 = true := fun c hc =>
        (of_mem_commentsFrom hc).2.2
      have hE := isComment_of_mem_append_pad h₁
      have hP := isComment_of_plain_eq h₂
      obtain rfl := hw₁.rest_eq hc hE
      refine ⟨hw₁.stays rfl (List.forall_mem_append.2 ⟨hc, hc⟩) hE, out, late.map (·.2), rfl, ?_⟩
      rw [commentsFrom_append] at hw₂
      have hrest := hw₂.rest_eq hc hP
      have hlate : ∀ c ∈ late, isComment c.2 = true := by
        rw [hrest]
        exact hc
      rw [← hrest] at hw₂ ⊢
      refine ⟨fun l hl => ?_, hw₂.stays rfl (List.forall_mem_append.2 ⟨hc, hlate⟩) hP⟩
      obtain ⟨c, hcl, rfl⟩ := List.mem_map.1 hl
      exact hlate c hcl
  · rintro ⟨hs₁, out, late, rfl, hlate, hs₂⟩
    have hw₂ := hs₂.woven
    rw [← commentsFrom_append] at hw₂
    have h := Stitched.intro hs₁.woven hw₂
    rwa [map_snd_commentsFrom, List.filter_eq_self.2 hlate] at h

/-! ## The drift of comments -/

/-- Where a comment on a line belongs when a fixture is written again with the errors and outputs that
it has already. Its first section has `k` lines and `a` comments, and its second `b` comments. -/
def drift (k a b line : Nat) : Nat := if line < k then line - a else line + a - b

theorem drift_of_lt {k i : Nat} (h : k < i) : drift k a b i = i + a - b :=
  if_neg (Nat.not_lt_of_lt h)

theorem shifted_read_file {source : List String} (h₁ : IsSection first) (h₂ : IsSection second)
    (hs : ∀ l ∈ source, IsLine l) :
    (read (file first second source)).shifted (plain first).length (plain second).length =
      drift first.length (first.filter isComment).length (second.filter isComment).length := by
  funext i
  rw [read_file h₁ h₂ hs, shifted, drift]
  have hfirst := length_eq_comments_add_plain first
  have hsecond := length_eq_comments_add_plain second
  dsimp only
  split <;> omega

/-- The comments of a first section that stays are above its errors. -/
theorem Stays.first_eq (h₁ : plain first = errors)
    (h : Stays (drift first.length (first.filter isComment).length b) rest 0
      (errors ++ pad errors) (first ++ pad errors)) :
    first = first.filter isComment ++ errors := by
  have hlt : ∀ c ∈ commentsFrom 0 (first ++ pad errors), 0 < c.1 →
      drift first.length (first.filter isComment).length b c.1 < c.1 := by
    intro c hc hpos
    rw [commentsFrom_append_pad] at hc
    have hbound := (of_mem_commentsFrom hc).2.1
    have hsome := List.length_pos_of_mem hc
    rw [length_commentsFrom] at hsome
    rw [drift, if_pos (by omega)]
    omega
  have hout := h.eq_comments_append hlt (isComment_of_mem_append_pad h₁)
  rw [List.filter_append, filter_isComment_eq_nil fun l hl => isComment_of_mem_pad hl,
    List.append_nil, ← List.append_assoc] at hout
  exact List.append_cancel_right hout

/-- With fewer comments before it, the comments of a second section that stays are above its
outputs. -/
theorem Stays.second_eq_of_lt (hab : a < b) (h₂ : plain (out ++ late) = outputs)
    (hlate : ∀ l ∈ late, isComment l = true)
    (h : Stays (drift first.length a b) (commentsFrom (first.length + 1 + out.length) late)
      (first.length + 1) outputs out) :
    out ++ late = (out ++ late).filter isComment ++ outputs := by
  by_cases hne : outputs = []
  · rw [hne] at h₂ ⊢
    rw [List.append_nil, List.filter_eq_self.2 (isComment_of_plain_eq_nil h₂)]
  · cases late with
    | nil =>
      rw [List.append_nil] at h₂ ⊢
      refine h.eq_comments_append (fun c hc _ => ?_) (isComment_of_plain_eq h₂)
      have hle := (of_mem_commentsFrom hc).1
      rw [drift_of_lt (by omega)]
      omega
    | cons l late =>
      -- a comment behind the last output would belong before it
      rw [List.forall_mem_cons] at hlate
      rw [commentsFrom_cons_comment hlate.1] at h
      have hle := h.le_place_of_rest hne _ rfl
      rw [drift_of_lt (by omega)] at hle
      omega

/-- With more comments before it, a second section that stays has no comments among its outputs. -/
theorem Stays.out_eq_of_gt (hab : b < a)
    (h : Stays (drift first.length a b) (commentsFrom (first.length + 1 + out.length) late)
      (first.length + 1) outputs out) : out = outputs := by
  refine h.eq_lines (fun c hc => ?_) fun c hc => ?_
  · have hle := (of_mem_commentsFrom hc).1
    rw [drift_of_lt (by omega)]
    omega
  · have hle : first.length + 1 ≤ c.1 := by
      rcases List.mem_append.1 (List.mem_of_mem_head? hc) with hc | hc
      · exact (of_mem_commentsFrom hc).1
      · have hle := (of_mem_commentsFrom hc).1
        omega
    rw [drift_of_lt (by omega)]
    omega

/-- A comment right behind the errors goes up past them unless it is only one too many. -/
theorem Stays.eq_succ_of_early {c : String} {more : List String} (h₁ : plain first = errors)
    (hc : isComment c = true) (hab : a < b)
    (h : Stays (drift first.length a b) (commentsFrom (first.length + 1) (c :: more)) 0
      (errors ++ pad errors) (first ++ pad errors)) : b = a + 1 ∧ errors ≠ [] := by
  rw [commentsFrom_cons_comment hc] at h
  have hle := h.le_place_of_rest (append_pad_ne_nil errors) _ rfl
  rw [drift_of_lt (Nat.lt_succ_self _), List.length_append] at hle
  by_cases herrors : errors = []
  · have hone : (pad errors).length = 1 := by rw [herrors]; rfl
    omega
  · have hfirst := length_eq_comments_add_plain first
    have hpos := List.length_pos_iff.2 herrors
    rw [h₁] at hfirst
    exact ⟨by omega, herrors⟩

theorem rests_of_stays (h₁ : plain first = errors)
    (hb : ((out ++ late).filter isComment).length = b) (h₂ : plain (out ++ late) = outputs)
    (hlate : ∀ l ∈ late, isComment l = true)
    (hs₁ : Stays (drift first.length a b) (commentsFrom (first.length + 1) (out ++ late)) 0
      (errors ++ pad errors) (first ++ pad errors))
    (hs₂ : Stays (drift first.length a b) (commentsFrom (first.length + 1 + out.length) late)
      (first.length + 1) outputs out) : Rests a errors outputs (out ++ late) := by
  rcases Nat.lt_trichotomy a b with hab | hab | hab
  · have hsecond := hs₂.second_eq_of_lt hab h₂ hlate
    have hcomment : ∀ l ∈ (out ++ late).filter isComment, isComment l = true := fun l hl =>
      (List.mem_filter.1 hl).2
    cases hearly : (out ++ late).filter isComment with
    | nil =>
      rw [hearly, List.length_nil] at hb
      omega
    | cons c early =>
      rw [hearly] at hsecond hb hcomment
      rw [hsecond] at hs₁ ⊢
      obtain ⟨hsucc, herrors⟩ := hs₁.eq_succ_of_early h₁ (hcomment c (List.mem_cons_self ..)) hab
      exact .early hcomment (hb.trans hsucc) herrors
  · exact .even h₂ (hb.trans hab.symm)
  · have hout := hs₂.out_eq_of_gt hab
    subst hout
    refine .late hlate ?_
    rw [filter_append_comments hlate (isComment_of_plain_eq h₂)] at hb
    omega

/-- One comment more than before the outputs is all that can be waiting behind the errors. -/
theorem Rests.length_le (h : Rests a errors outputs second)
    (hP : ∀ l ∈ outputs, isComment l = false) :
    (second.filter isComment).length ≤ a ∨
      (second.filter isComment).length = a + 1 ∧ errors ≠ [] := by
  cases h with
  | even _ hlength => exact .inl (Nat.le_of_eq hlength)
  | late hlate hlength =>
    rw [filter_append_comments hlate hP]
    exact .inl (Nat.le_of_lt hlength)
  | early hearly hlength herrors =>
    rw [filter_comments_append hearly hP]
    exact .inr ⟨hlength, herrors⟩

theorem stays_first {top : List String} (htop : ∀ l ∈ top, isComment l = true)
    (hE : ∀ l ∈ errors ++ pad errors, isComment l = false)
    (hb : b ≤ top.length ∨ b = top.length + 1 ∧ errors ≠ []) :
    Stays (drift (top ++ errors).length top.length b)
      (commentsFrom ((top ++ errors).length + 1) second) 0 (errors ++ pad errors)
      (top ++ errors ++ pad errors) := by
  rw [List.append_assoc]
  refine .comments_append htop (fun i hi => ?_) (append_pad_ne_nil errors)
    (.of_lines hE fun c hc => ?_)
  · rw [drift, if_pos (by rw [List.length_append]; omega)]
    omega
  · have hle := (of_mem_commentsFrom (List.mem_of_mem_head? hc)).1
    rw [drift_of_lt hle]
    rw [List.length_append] at hle ⊢
    rcases hb with hb | ⟨hb, herrors⟩
    · have hpad : (pad errors).length ≤ 1 := by unfold pad; split <;> simp
      omega
    · rw [pad_of_ne_nil herrors, List.length_nil]
      omega

theorem Rests.stays_second (h : Rests a errors outputs second) (h₂ : plain second = outputs) :
    ∃ out late, second = out ++ late ∧ (∀ l ∈ late, isComment l = true) ∧
      Stays (drift first.length a (second.filter isComment).length)
        (commentsFrom (first.length + 1 + out.length) late) (first.length + 1) outputs out := by
  have hP := isComment_of_plain_eq h₂
  cases h with
  | even _ hlength =>
    rw [hlength, ← h₂]
    refine Stays.exists_of_place_eq fun i hi => ?_
    rw [drift_of_lt hi, Nat.add_sub_cancel]
  | @late late hlate hlength =>
    rw [filter_append_comments hlate hP]
    refine ⟨outputs, late, rfl, hlate, .of_lines hP fun c hc => ?_⟩
    have hle := (of_mem_commentsFrom (List.mem_of_mem_head? hc)).1
    rw [drift_of_lt (by omega)]
    omega
  | @early early hearly hlength _ =>
    rw [filter_comments_append hearly hP]
    by_cases hne : outputs = []
    · subst hne
      exact ⟨[], early, List.append_nil early, hearly, .done⟩
    · refine ⟨early ++ outputs, [], (List.append_nil _).symm, by simp, ?_⟩
      refine .comments_append hearly (fun i _ => ?_) hne
        (.of_lines hP (by simp [commentsFrom, numbered]))
      unfold drift
      split <;> omega

/-- The sections stay if and only if the comments of the first are above its errors and those of the
second rest. -/
theorem stitched_self_iff_rests (h₁ : plain first = errors) (h₂ : plain second = outputs) :
    Stitched (drift first.length (first.filter isComment).length (second.filter isComment).length)
        (commentsFrom 0 first ++ commentsFrom (first.length + 1) second) errors outputs
        first second ↔
      ∃ top, (∀ l ∈ top, isComment l = true) ∧ first = top ++ errors ∧
        Rests top.length errors outputs second := by
  rw [stitched_self_iff h₁ h₂]
  have hE := isComment_of_mem_append_pad h₁
  constructor
  · rintro ⟨hs₁, out, late, rfl, hlate, hs₂⟩
    refine ⟨first.filter isComment, fun l hl => (List.mem_filter.1 hl).2, hs₁.first_eq h₁, ?_⟩
    exact rests_of_stays h₁ rfl h₂ hlate hs₁ hs₂
  · rintro ⟨top, htop, rfl, hrests⟩
    rw [filter_comments_append htop (isComment_of_plain_eq h₁)]
    exact ⟨stays_first htop hE (hrests.length_le (isComment_of_plain_eq h₂)),
      hrests.stays_second h₂⟩

/-! ## Writing twice -/

/-- A fixture of three sections is written as it stands if and only if its comments rest. -/
theorem stitch_read_file_iff {source : List String} (hs₁ : IsSection first) (hs₂ : IsSection second)
    (hs : ∀ l ∈ source, IsLine l) (hsource : Text.lines (joinSource source) = source)
    (he : ∀ l ∈ plain first, IsPlain l) (ho : ∀ l ∈ plain second, IsPlain l) :
    (read (file first second source)).stitch (plain first) (plain second) =
        file first second source ↔
      ∃ top, (∀ l ∈ top, isComment l = true) ∧ first = top ++ plain first ∧
        Rests top.length (plain first) (plain second) second := by
  obtain ⟨first', second', hfile, hst, ⟨hs₁', -⟩, ⟨hs₂', -⟩, -⟩ :=
    exists_file_stitch (not_mem_file hs₁ hs₂ hs) he ho
  rw [← stitched_self_iff_rests rfl rfl, hfile]
  rw [shifted_read_file hs₁ hs₂ hs, read_file hs₁ hs₂ hs] at hst
  rw [read_file hs₁ hs₂ hs]
  dsimp only at hst ⊢
  rw [hsource]
  constructor
  · intro h
    obtain ⟨rfl, rfl, -⟩ := file_inj hs₁' hs₂' hs hs₁ hs₂ hs h
    exact hst
  · intro h
    obtain ⟨rfl, rfl⟩ := hst.unique h
    rfl

/-- A fixture that is written again is left as it is by a second writing with the same errors and
outputs if and only if its comments rest: those of the first section are above the errors, and those
of the second are as many, or fewer and below the outputs, or one more and above the outputs of a
fixture with errors. -/
theorem stitch_again_eq_iff_rests {contents : String} (hcr : '\r' ∉ contents.toList)
    (hend : ∀ s, (read contents).source ≠ s ++ "\n") {errors outputs : List String}
    (he : ∀ l ∈ errors, IsPlain l) (ho : ∀ l ∈ outputs, IsPlain l) :
    let f := (read contents).stitch errors outputs
    (read f).stitch errors outputs = f ↔
      ∃ top second, (∀ l ∈ top, isComment l = true) ∧ Rests top.length errors outputs second ∧
        Text.lines f = top ++ errors ++ separator :: second ++
          separator :: Text.lines (read contents).source := by
  obtain ⟨first, second, hfile, -, ⟨hs₁, rfl⟩, ⟨hs₂, rfl⟩, -⟩ := exists_file_stitch hcr he ho
  have hs : ∀ l ∈ Text.lines (read contents).source, IsLine l := fun l hl =>
    isLine_of_mem_lines_source hcr hl
  have hsource : Text.lines (joinSource (Text.lines (read contents).source)) =
      Text.lines (read contents).source :=
    congrArg Text.lines ((joinSource_lines_source hcr).resolve_right (hend _)).symm
  dsimp only
  rw [hfile, stitch_read_file_iff hs₁ hs₂ hs hsource he ho, lines_file hs₁ hs₂ hs]
  constructor
  · rintro ⟨top, htop, hfirst, hrests⟩
    exact ⟨top, second, htop, hrests, by rw [← hfirst]⟩
  · rintro ⟨top, second', htop, hrests, hlines⟩
    have hline : ∀ l ∈ top ++ plain first, IsLine l := by
      intro l hl
      refine isLine_of_mem_file hs₁ hs₂ hs l ?_
      rw [hlines]
      exact List.mem_append_left _ (List.mem_append_left _ hl)
    have hsection : IsSection (top ++ plain first) := by
      refine isSection_of_plain hline fun l hl => ?_
      rw [plain_append, plain_eq_nil htop] at hl
      exact (he l (List.mem_filter.1 hl).1).notSeparator
    rw [List.append_assoc, List.append_assoc (top ++ plain first)] at hlines
    obtain ⟨hfirst, hrest⟩ := append_separator_inj hs₁ hsection hlines
    obtain rfl := List.append_cancel_right hrest
    exact ⟨top, htop, hfirst, hrests⟩

/-- One comment above the errors and one among the outputs. -/
theorem stitch_again_eq_iff_rests_even :
    let contents := "; x\n---\n; y\n---\n1\n"
    let f := "; x\na\n---\n; y\nb\n---\n1\n"
    (read contents).stitch ["a"] ["b"] = f ∧ (read f).stitch ["a"] ["b"] = f := by
  intro contents f
  have hf : (read contents).stitch ["a"] ["b"] = f := by decide +kernel
  have hcr : '\r' ∉ contents.toList := by decide +kernel
  have hsource : (read contents).source = "1" := by decide +kernel
  have hend : ∀ s, (read contents).source ≠ s ++ "\n" := by
    intro s h
    have hlast := congrArg (fun t => t.toList.getLast?) (hsource.symm.trans h)
    simp at hlast
  have he : ∀ l ∈ ["a"], IsPlain l := by decide +kernel
  have ho : ∀ l ∈ ["b"], IsPlain l := by decide +kernel
  have hagain := (stitch_again_eq_iff_rests hcr hend he ho).2
    ⟨["; x"], ["; y", "b"], by decide +kernel, .even (by decide +kernel) (by decide +kernel),
      by decide +kernel⟩
  rw [hf] at hagain
  exact ⟨hf, hagain⟩

/-- A comment that was alone in its section is put between two errors, and the next time above both
of them. -/
theorem stitch_again_moves_comment :
    let contents := "; stray\n---\n---\n@ @\n"
    let errors := ["[0..1] unrecognized input", "[2..3] unrecognized input"]
    let f := (read contents).stitch errors []
    ('\r' ∉ contents.toList ∧ (read contents).source = "@ @" ∧ ∀ l ∈ errors, IsPlain l) ∧
      f = "[0..1] unrecognized input\n; stray\n[2..3] unrecognized input\n---\n---\n@ @\n" ∧
      (read f).stitch errors [] =
        "; stray\n[0..1] unrecognized input\n[2..3] unrecognized input\n---\n---\n@ @\n" ∧
      (read f).stitch errors [] ≠ f := by
  decide +kernel

end StackLisp.Fixture
