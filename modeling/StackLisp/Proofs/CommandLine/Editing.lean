/-
Edited lines. As long as the size of every cluster fits into a byte, the notes of a line tell where
its clusters end, and each backspace takes back the last cluster that is kept. Without a backspace
the notes are of no account. So a line has an edited form unless it has both a backspace and a
cluster of 256 bytes or more.
-/
import Mathlib.Logic.Basic
import StackLisp.CommandLine.Line

namespace StackLisp

/-! ## Bytes and clusters -/

namespace Text

theorem byteSize_reverse (cs : List Char) : byteSize cs.reverse = byteSize cs := by
  induction cs with
  | nil => rfl
  | cons c r ih =>
    rw [List.reverse_cons, byteSize_append, ih, byteSize, byteSize, byteSize]
    omega

theorem dropBytes?_append (a b : List Char) : dropBytes? (a ++ b) (byteSize a) = some b := by
  induction a with
  | nil => rw [List.nil_append, byteSize, dropBytes?]
  | cons c r ih =>
    have hc := c.utf8Size_pos
    obtain ⟨n, hn⟩ : ∃ n, byteSize (c :: r) = n + 1 := ⟨byteSize (c :: r) - 1, by
      rw [byteSize]
      omega⟩
    have hr : n + 1 - c.utf8Size = byteSize r := by
      rw [← hn, byteSize]
      omega
    rw [List.cons_append, hn, dropBytes?, if_pos (by rw [← hn, byteSize]; omega), hr, ih]

/-- The clusters of a text are the text. -/
theorem Cluster.flatten_split (cs : List Char) : (split cs).flatten = cs := by
  have hput : ∀ c rest, (putFirst c rest).flatten = c :: rest.flatten := by
    intro c rest
    cases rest <;> rfl
  have hafter : ∀ before, (splitAfter before cs).flatten = cs := by
    intro before
    fun_induction splitAfter before cs with
    | case1 => rfl
    | case2 => rfl
    | case3 before c d r past rest hjoin ih => rw [hput, ih]
    | case4 before c d r past rest hjoin ih => rw [List.flatten_cons, ih]; rfl
  exact hafter []

end Text

/-! ## Notes of clusters -/

namespace CommandLine

namespace Typed

/-- What is noted of some clusters, the last of them first. -/
def ofClusters (stack : List (List Char)) : Typed :=
  ⟨stack.reverse.flatten.reverse, stack.map fun cluster => (Text.byteSize cluster).toUInt8⟩

theorem ofClusters_cons (cluster : List Char) (stack : List (List Char)) :
    ofClusters (cluster :: stack) = (ofClusters stack).put cluster := by
  simp [ofClusters, put]

/-- A cluster whose size fits into a byte is taken back as a whole. -/
theorem takeBack?_put (t : Typed) {cluster : List Char} (h : Text.byteSize cluster < 256) :
    (t.put cluster).takeBack? = some t := by
  have hsize : (Text.byteSize cluster).toUInt8.toNat = Text.byteSize cluster.reverse := by
    rw [Text.byteSize_reverse]
    exact Nat.mod_eq_of_lt h
  show (Text.dropBytes? (cluster.reverse ++ t.text) _).map _ = some t
  rw [hsize, Text.dropBytes?_append]
  rfl

end Typed

/-- The clusters that are kept, the last of them first, when another one is typed. -/
def kept (stack : List (List Char)) (cluster : List Char) : List (List Char) :=
  if cluster = [backspace] then stack.tail else cluster :: stack

theorem mem_of_mem_kept {stack : List (List Char)} {cluster c : List Char}
    (h : c ∈ kept stack cluster) : c = cluster ∨ c ∈ stack := by
  unfold kept at h
  split at h
  · exact .inr (List.mem_of_mem_tail h)
  · exact List.mem_cons.1 h

/-- The notes follow what is kept, for a cluster that is no backspace, or behind clusters that are not
too long. -/
theorem Typed.type?_ofClusters {stack : List (List Char)} {cluster : List Char}
    (h : cluster ≠ [backspace] ∨ ∀ c ∈ stack, Text.byteSize c < 256) :
    (ofClusters stack).type? cluster = some (ofClusters (kept stack cluster)) := by
  unfold type? kept
  split
  · rename_i hc
    have hsmall := h.resolve_left (not_not_intro hc)
    cases stack with
    | nil => rfl
    | cons last stack =>
      rw [ofClusters_cons, List.tail_cons]
      exact takeBack?_put _ (hsmall last (List.mem_cons_self ..))
  · rw [ofClusters_cons]

/-! ## Whole lines -/

theorem foldlM_type? {clusters : List (List Char)} : ∀ {stack : List (List Char)},
    [backspace] ∉ clusters ∨ (∀ c ∈ clusters ++ stack, Text.byteSize c < 256) →
    clusters.foldlM Typed.type? (Typed.ofClusters stack) =
      some (Typed.ofClusters (clusters.foldl kept stack)) := by
  induction clusters with
  | nil => intro stack _; rfl
  | cons cluster clusters ih =>
    intro stack h
    have hstep : cluster ≠ [backspace] ∨ ∀ c ∈ stack, Text.byteSize c < 256 := by
      refine h.imp (fun hn he => hn ?_) fun hs c hc => hs c (List.mem_append_right _ hc)
      rw [he]
      exact List.mem_cons_self ..
    rw [List.foldlM_cons, Typed.type?_ofClusters hstep, List.foldl_cons]
    refine ih (h.imp (fun hn hm => hn (List.mem_cons_of_mem _ hm)) fun hs c hc => hs c ?_)
    rcases List.mem_append.1 hc with hc | hc
    · exact List.mem_append_left _ (List.mem_cons_of_mem _ hc)
    · rcases mem_of_mem_kept hc with rfl | hc
      · exact List.mem_append_left _ (List.mem_cons_self ..)
      · exact List.mem_append_right _ hc

/-- A line without backspaces, or of clusters that are not too long, is edited cluster by cluster: a
backspace takes back the last cluster that is kept. -/
theorem edited?_eq {line : String} (h : backspace ∉ line.toList ∨
      ∀ c ∈ Text.Cluster.split line.toList, Text.byteSize c < 256) :
    edited? line = some (String.ofList
      ((Text.Cluster.split line.toList).foldl kept []).reverse.flatten) := by
  have hsplit : [backspace] ∉ Text.Cluster.split line.toList ∨
      ∀ c ∈ Text.Cluster.split line.toList ++ [], Text.byteSize c < 256 := by
    rw [List.append_nil]
    refine h.imp (fun hn hm => hn ?_) id
    rw [← Text.Cluster.flatten_split line.toList]
    exact List.mem_flatten.2 ⟨_, hm, List.mem_singleton_self _⟩
  have hfold : (Text.Cluster.split line.toList).foldlM Typed.type? {} =
      some (.ofClusters ((Text.Cluster.split line.toList).foldl kept [])) := foldlM_type? hsplit
  rw [edited?, hfold, Option.map_some, Typed.ofClusters, List.reverse_reverse]

example : edited? "(+ 1 #\x082)" = some "(+ 1 2)" := by decide +kernel

/-- A line without an edited form has a backspace, and a cluster whose size does not fit into a
byte. -/
theorem of_edited?_eq_none {line : String} (h : edited? line = none) :
    backspace ∈ line.toList ∧
      ∃ c ∈ Text.Cluster.split line.toList, 256 ≤ Text.byteSize c := by
  have hneither : ¬ (backspace ∉ line.toList ∨
      ∀ c ∈ Text.Cluster.split line.toList, Text.byteSize c < 256) := by
    intro hor
    rw [edited?_eq hor] at h
    cases h
  obtain ⟨hb, hlong⟩ := not_or.1 hneither
  obtain ⟨c, hc⟩ := not_forall.1 hlong
  obtain ⟨hmem, hle⟩ := Classical.not_imp.1 hc
  exact ⟨not_not.1 hb, c, hmem, Nat.le_of_not_lt hle⟩

end CommandLine

end StackLisp
