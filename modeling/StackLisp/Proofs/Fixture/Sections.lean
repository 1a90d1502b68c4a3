/-
Files of fixtures, section by section. A file is written as the lines of its three sections with a
separator between any two. Read again, it gives the lines of the first two sections, the comments
among them with the numbers of their lines, and the source. A source loses no more than one line feed
at its end when it is cut into lines and put together again.
-/
import StackLisp.Fixture.Basic
import StackLisp.Proofs.Text.Lines
import Mathlib.Data.List.Basic

namespace StackLisp

/-! ## Lines of a text -/

namespace Text

/-- A line has no line feed, and its characters are characters of the text. -/
theorem of_mem_cutLines {cs line : List Char} (h : line ∈ cutLines cs) :
    '\n' ∉ line ∧ line ⊆ cs := by
  fun_induction cutLines cs generalizing line with
  | case1 => cases h
  | case2 r ih =>
    rcases List.mem_cons.1 h with rfl | h
    · exact ⟨List.not_mem_nil, List.nil_subset _⟩
    · exact ⟨(ih h).1, List.subset_cons_of_subset _ (ih h).2⟩
  | case3 r ih =>
    rcases List.mem_cons.1 h with rfl | h
    · exact ⟨List.not_mem_nil, List.nil_subset _⟩
    · exact ⟨(ih h).1, List.subset_cons_of_subset _ (List.subset_cons_of_subset _ (ih h).2)⟩
  | case4 c r hn hr hcut ih =>
    obtain rfl := List.mem_singleton.1 h
    exact ⟨fun hc => hn (List.mem_singleton.1 hc).symm, List.cons_subset_cons c (List.nil_subset r)⟩
  | case5 c r hn hr l rest hcut ih =>
    rw [hcut] at ih
    rcases List.mem_cons.1 h with rfl | h
    · obtain ⟨hl, hsub⟩ := ih (List.mem_cons_self ..)
      refine ⟨fun hc => ?_, List.cons_subset_cons c hsub⟩
      rcases List.mem_cons.1 hc with hc | hc
      · exact hn hc.symm
      · exact hl hc
    · obtain ⟨hl, hsub⟩ := ih (List.mem_cons_of_mem _ h)
      exact ⟨hl, List.subset_cons_of_subset _ hsub⟩

theorem isLine_of_mem_lines {s l : String} (hs : '\r' ∉ s.toList) (h : l ∈ lines s) : IsLine l := by
  obtain ⟨line, hline, rfl⟩ := List.mem_map.1 h
  obtain ⟨hn, hsub⟩ := of_mem_cutLines hline
  rw [IsLine, String.toList_ofList]
  exact ⟨hn, fun hr => hs (hsub hr)⟩

theorem not_mem_unlines {ls : List String} (h : ∀ l ∈ ls, IsLine l) :
    '\r' ∉ (unlines ls).toList := by
  induction ls with
  | nil => decide
  | cons l ls ih =>
    rw [List.forall_mem_cons] at h
    cases ls with
    | nil => exact h.1.2
    | cons l' ls =>
      rw [unlines_cons_cons, String.toList_append, String.toList_append, List.mem_append,
        List.mem_append, not_or, not_or]
      exact ⟨⟨h.1.2, by decide⟩, ih h.2⟩

/-- An empty line at the end shows as a line feed. -/
theorem unlines_concat_empty {ls : List String} (h : ls ≠ []) :
    unlines (ls ++ [""]) = unlines ls ++ "\n" := by
  induction ls with
  | nil => exact absurd rfl h
  | cons l ls ih =>
    cases ls with
    | nil => rw [List.singleton_append, unlines_cons_cons]; exact String.append_empty
    | cons l' ls =>
      rw [List.cons_append, List.cons_append, unlines_cons_cons, ← List.cons_append,
        ih (List.cons_ne_nil _ _), unlines_cons_cons]
      simp only [String.append_assoc]

/-- A text without the line feeds at its end. -/
def dropNewlines (s : String) : String :=
  String.ofList (s.toList.reverse.dropWhile (· == '\n')).reverse

theorem dropNewlines_append_newline (s : String) : dropNewlines (s ++ "\n") = dropNewlines s := by
  unfold dropNewlines
  rw [String.toList_append, List.reverse_append]
  rfl

end Text

open Text (IsLine)

namespace Fixture

/-! ## Separators and comments -/

theorem isSeparator_separator : isSeparator separator = true := by decide

theorem isComment_separator : isComment separator = false := by decide

theorem isLine_separator : IsLine separator := by decide

/-- A separator is three dashes and then blanks. -/
theorem exists_of_isSeparator {l : String} (h : isSeparator l = true) :
    ∃ blanks, l.toList = '-' :: '-' :: '-' :: blanks := by
  have hcut : (l.toList.reverse.dropWhile Text.isBlank).reverse = ['-', '-', '-'] := by
    have htrim := congrArg String.toList (beq_iff_eq.1 h)
    rwa [Text.trimEnd, String.toList_ofList] at htrim
  refine ⟨(l.toList.reverse.takeWhile Text.isBlank).reverse, ?_⟩
  have hwhole := congrArg List.reverse
    (List.takeWhile_append_dropWhile (p := Text.isBlank) (l := l.toList.reverse))
  rw [List.reverse_append, hcut, List.reverse_reverse] at hwhole
  exact hwhole.symm

theorem isComment_of_isSeparator {l : String} (h : isSeparator l = true) : isComment l = false := by
  obtain ⟨blanks, hl⟩ := exists_of_isSeparator h
  have hdash : Text.isBlank '-' = false := by decide
  rw [isComment, Text.trimStart, hl, List.dropWhile_cons_of_neg (by simp [hdash])]
  simp

theorem isSeparator_of_isComment {l : String} (h : isComment l = true) : isSeparator l = false := by
  rw [Bool.eq_false_iff]
  intro hs
  rw [isComment_of_isSeparator hs] at h
  cases h

/-- A line that reads as neither comment nor separator. -/
structure IsPlain (l : String) : Prop where
  line : IsLine l
  notComment : isComment l = false
  notSeparator : isSeparator l = false

instance (l : String) : Decidable (IsPlain l) :=
  decidable_of_iff (IsLine l ∧ isComment l = false ∧ isSeparator l = false)
    ⟨fun h => ⟨h.1, h.2.1, h.2.2⟩, fun h => ⟨h.line, h.notComment, h.notSeparator⟩⟩

/-- The lines of a section that are not comments. -/
def plain (ls : List String) : List String := ls.filter fun l => !isComment l

theorem plain_append (ls ms : List String) : plain (ls ++ ms) = plain ls ++ plain ms :=
  List.filter_append ..

theorem plain_of_forall {ls : List String} (h : ∀ l ∈ ls, isComment l = false) : plain ls = ls :=
  List.filter_eq_self.2 fun l hl => by simp [h l hl]

theorem isComment_of_plain_eq {ls ms : List String} (h : plain ls = ms) :
    ∀ l ∈ ms, isComment l = false := by
  intro l hl
  rw [← h] at hl
  simpa using (List.mem_filter.1 hl).2

theorem plain_eq_nil {ls : List String} (h : ∀ l ∈ ls, isComment l = true) : plain ls = [] :=
  List.filter_eq_nil_iff.2 fun l hl => by simp [h l hl]

theorem filter_isComment_eq_nil {ls : List String} (h : ∀ l ∈ ls, isComment l = false) :
    ls.filter isComment = [] :=
  List.filter_eq_nil_iff.2 fun l hl => by simp [h l hl]

theorem filter_comments_append {cs ls : List String} (hc : ∀ c ∈ cs, isComment c = true)
    (hl : ∀ l ∈ ls, isComment l = false) : (cs ++ ls).filter isComment = cs := by
  rw [List.filter_append, List.filter_eq_self.2 hc, filter_isComment_eq_nil hl, List.append_nil]

theorem filter_append_comments {cs ls : List String} (hc : ∀ c ∈ cs, isComment c = true)
    (hl : ∀ l ∈ ls, isComment l = false) : (ls ++ cs).filter isComment = cs := by
  rw [List.filter_append, filter_isComment_eq_nil hl, List.filter_eq_self.2 hc, List.nil_append]

theorem isComment_of_plain_eq_nil {ls : List String} (h : plain ls = []) :
    ∀ l ∈ ls, isComment l = true := by
  simpa [plain] using h

theorem length_eq_comments_add_plain (ls : List String) :
    ls.length = (ls.filter isComment).length + (plain ls).length :=
  List.length_eq_length_filter_add isComment

/-! ## Numbers of lines -/

/-- Lines with their numbers, counted from a start. -/
def numbered (start : Nat) (ls : List String) : List (Nat × String) :=
  (ls.zipIdx start).map fun l => (l.2, l.1)

/-- The comments among some lines, with the numbers of their lines. -/
def commentsFrom (start : Nat) (ls : List String) : List (Nat × String) :=
  (numbered start ls).filter fun l => isComment l.2

theorem numbered_cons (n : Nat) (l : String) (ls : List String) :
    numbered n (l :: ls) = (n, l) :: numbered (n + 1) ls := rfl

theorem numbered_append (n : Nat) (ls ms : List String) :
    numbered n (ls ++ ms) = numbered n ls ++ numbered (n + ls.length) ms := by
  rw [numbered, List.zipIdx_append, List.map_append]
  rfl

theorem map_snd_numbered (n : Nat) (ls : List String) : (numbered n ls).map (·.2) = ls := by
  induction ls generalizing n with
  | nil => rfl
  | cons l ls ih => rw [numbered_cons, List.map_cons, ih]

theorem length_numbered (n : Nat) (ls : List String) : (numbered n ls).length = ls.length := by
  rw [numbered, List.length_map, List.length_zipIdx]

theorem commentsFrom_append (n : Nat) (ls ms : List String) :
    commentsFrom n (ls ++ ms) = commentsFrom n ls ++ commentsFrom (n + ls.length) ms := by
  rw [commentsFrom, numbered_append, List.filter_append]
  rfl

theorem commentsFrom_cons_comment {l : String} (h : isComment l = true) (n : Nat)
    (ls : List String) : commentsFrom n (l :: ls) = (n, l) :: commentsFrom (n + 1) ls :=
  List.filter_cons_of_pos h

theorem commentsFrom_cons_line {l : String} (h : isComment l = false) (n : Nat) (ls : List String) :
    commentsFrom n (l :: ls) = commentsFrom (n + 1) ls :=
  List.filter_cons_of_neg (by simp [h])

theorem map_filter_numbered (p : String → Bool) (n : Nat) (ls : List String) :
    ((numbered n ls).filter fun l => p l.2).map (·.2) = ls.filter p := by
  have hmap := List.filter_map (f := fun l : Nat × String => l.2) (p := p) (l := numbered n ls)
  rw [map_snd_numbered] at hmap
  exact hmap.symm

theorem map_snd_commentsFrom (n : Nat) (ls : List String) :
    (commentsFrom n ls).map (·.2) = ls.filter isComment := map_filter_numbered isComment n ls

theorem length_commentsFrom (n : Nat) (ls : List String) :
    (commentsFrom n ls).length = (ls.filter isComment).length := by
  rw [← map_snd_commentsFrom n ls, List.length_map]

theorem commentsFrom_eq_nil {ls : List String} (h : ∀ l ∈ ls, isComment l = false) (n : Nat) :
    commentsFrom n ls = [] := by
  rw [← List.length_eq_zero_iff, length_commentsFrom, filter_isComment_eq_nil h]
  rfl

theorem of_mem_commentsFrom {n : Nat} {ls : List String} {c : Nat × String}
    (h : c ∈ commentsFrom n ls) : n ≤ c.1 ∧ c.1 < n + ls.length ∧ isComment c.2 = true := by
  obtain ⟨hc, hcomment⟩ := List.mem_filter.1 h
  obtain ⟨⟨l, i⟩, hl, rfl⟩ := List.mem_map.1 hc
  exact ⟨List.le_snd_of_mem_zipIdx hl, List.snd_lt_add_of_mem_zipIdx hl, hcomment⟩

/-! ## Files -/

/-- The file of three sections. -/
def file (first second source : List String) : String :=
  Text.unlines (first ++ separator :: second ++ separator :: source) ++ "\n"

/-- Lines that can stand in one of the first two sections of a file. -/
def IsSection (ls : List String) : Prop := ∀ l ∈ ls, IsLine l ∧ isSeparator l = false

theorem cutSection_append {ls : List String} (h : IsSection ls) (n : Nat) (rest : List String) :
    cutSection (numbered n (ls ++ separator :: rest)) =
      (numbered n ls, numbered (n + ls.length + 1) rest) := by
  have hpass : ∀ l ∈ numbered n ls, (!isSeparator l.2) = true := by
    intro l hl
    have hmem : l.2 ∈ ls := by
      rw [← map_snd_numbered n ls]
      exact List.mem_map_of_mem hl
    simp [(h l.2 hmem).2]
  have htake : (numbered n (ls ++ separator :: rest)).takeWhile (fun l => !isSeparator l.2) =
      numbered n ls := by
    rw [numbered_append, numbered_cons, List.takeWhile_append_of_pos hpass,
      List.takeWhile_cons_of_neg (by simp [isSeparator_separator]), List.append_nil]
  rw [cutSection, htake, numbered_append, numbered_cons, length_numbered]
  simp [length_numbered, List.drop_append]

variable {first second source : List String}

theorem isLine_of_mem_file (h₁ : IsSection first) (h₂ : IsSection second)
    (hs : ∀ l ∈ source, IsLine l) :
    ∀ l ∈ first ++ separator :: second ++ separator :: source, IsLine l := by
  intro l hl
  simp only [List.mem_append, List.mem_cons] at hl
  rcases hl with (hl | rfl | hl) | rfl | hl
  · exact (h₁ l hl).1
  · exact isLine_separator
  · exact (h₂ l hl).1
  · exact isLine_separator
  · exact hs l hl

theorem lines_file (h₁ : IsSection first) (h₂ : IsSection second) (hs : ∀ l ∈ source, IsLine l) :
    Text.lines (file first second source) =
      first ++ separator :: second ++ separator :: source :=
  Text.lines_unlines_newline (isLine_of_mem_file h₁ h₂ hs) (by simp)

theorem not_mem_file (h₁ : IsSection first) (h₂ : IsSection second)
    (hs : ∀ l ∈ source, IsLine l) : '\r' ∉ (file first second source).toList := by
  rw [file, String.toList_append, List.mem_append, not_or]
  exact ⟨Text.not_mem_unlines (isLine_of_mem_file h₁ h₂ hs), by decide⟩

/-- What a file of three sections is read as. -/
theorem read_file (h₁ : IsSection first) (h₂ : IsSection second) (hs : ∀ l ∈ source, IsLine l) :
    read (file first second source) =
      { errors := plain first
        outputs := plain second
        source := joinSource source
        comments := commentsFrom 0 first ++ commentsFrom (first.length + 1) second
        errorLines := first.length
        outputLines := second.length } := by
  have hnumbered : (Text.lines (file first second source)).zipIdx.map (fun l => (l.2, l.1)) =
      numbered 0 (first ++ separator :: (second ++ separator :: source)) := by
    rw [lines_file h₁ h₂ hs, List.append_assoc]
    rfl
  simp only [read, hnumbered, cutSection_append h₁, cutSection_append h₂, Nat.zero_add,
    length_numbered, map_snd_numbered, List.filter_append,
    map_filter_numbered fun l => !isComment l]
  rfl

theorem append_separator_inj {ls ls' rest rest' : List String} (h : IsSection ls)
    (h' : IsSection ls') (heq : ls ++ separator :: rest = ls' ++ separator :: rest') :
    ls = ls' ∧ rest = rest' := by
  have hcut := congrArg (fun lines => cutSection (numbered 0 lines)) heq
  simp only [cutSection_append h, cutSection_append h', Prod.mk.injEq] at hcut
  have hls := congrArg (List.map (·.2)) hcut.1
  have hrest := congrArg (List.map (·.2)) hcut.2
  simp only [map_snd_numbered] at hls hrest
  exact ⟨hls, hrest⟩

/-- The sections of a file can be told from it. -/
theorem file_inj {first' second' source' : List String} (h₁ : IsSection first)
    (h₂ : IsSection second) (hs : ∀ l ∈ source, IsLine l) (h₁' : IsSection first')
    (h₂' : IsSection second') (hs' : ∀ l ∈ source', IsLine l)
    (h : file first second source = file first' second' source') :
    first = first' ∧ second = second' ∧ source = source' := by
  have hlines := congrArg Text.lines h
  rw [lines_file h₁ h₂ hs, lines_file h₁' h₂' hs', List.append_assoc, List.append_assoc] at hlines
  obtain ⟨hfirst, hrest⟩ := append_separator_inj h₁ h₁' hlines
  exact ⟨hfirst, append_separator_inj h₂ h₂' hrest⟩

/-! ## Sources -/

theorem joinSource_of_head {ls : List String} (h : ls.head? ≠ some "") :
    joinSource ls = Text.unlines ls := by
  cases ls with
  | nil => rfl
  | cons l ls =>
    have hl : ¬ (l == "") = true := by simpa using h
    rw [joinSource, List.dropWhile_cons, if_neg hl]

/-- A source that is cut into lines and put together again loses a line feed at its end, if it has
one. -/
theorem joinSource_lines_joinSource {ls : List String} (h : ∀ l ∈ ls, IsLine l) :
    joinSource ls = joinSource (Text.lines (joinSource ls)) ∨
      joinSource ls = joinSource (Text.lines (joinSource ls)) ++ "\n" := by
  obtain ⟨kept, hkept⟩ : ∃ kept, ls.dropWhile (· == "") = kept := ⟨_, rfl⟩
  have hhead : kept.head? ≠ some "" := by
    intro hhead
    have hdrop := List.head?_dropWhile_not (· == "") ls
    rw [hkept, hhead] at hdrop
    cases hdrop
  have hline : ∀ l ∈ kept, IsLine l := fun l hl =>
    h l ((List.dropWhile_sublist _).subset (hkept ▸ hl))
  have hjoin : joinSource ls = Text.unlines kept := by rw [joinSource, hkept]
  rw [hjoin]
  by_cases hlast : kept.getLast? = some ""
  · obtain ⟨more, rfl⟩ := List.getLast?_eq_some_iff.1 hlast
    have hmore : more ≠ [] := by
      rintro rfl
      exact hhead rfl
    have hhead' : more.head? ≠ some "" := by
      rwa [List.head?_append_of_ne_nil _ hmore] at hhead
    right
    rw [Text.unlines_concat_empty hmore, Text.lines_unlines_newline
      (fun l hl => hline l (List.mem_append_left _ hl)) hmore, joinSource_of_head hhead']
  · left
    rw [Text.lines_unlines hline hlast, joinSource_of_head hhead]

end Fixture

end StackLisp
