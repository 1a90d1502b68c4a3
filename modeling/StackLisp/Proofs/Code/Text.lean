/-
The texts of code determine it. An instruction has one text, which stands on one line, and a word has
one decimal form. So a listing can be cut into the texts of its instructions, and a module into its
two headers and the indented texts; the name of the entry point ends at the first space after it.
-/
import Mathlib.Data.List.Basic
import StackLisp.Proofs.Code.Validation
import StackLisp.Proofs.Text.Lines

namespace StackLisp

open Text (IsLine isLine_repr)

/-! ## Instructions -/

theorem wordText_injective : Function.Injective wordText := by
  -- a number is read back from its digits
  have hread : ∀ n : Nat, Nat.ofDigitChars 10 n.repr.toList 0 = n := by
    intro n
    rw [Nat.repr_eq_ofList_toDigits, String.toList_ofList, Nat.ofDigitChars_ten_toDigits]
  have hrepr : ∀ {a b : Nat}, a.repr = b.repr → a = b := by
    intro a b h
    rw [← hread a, h, hread]
  -- digits alone never start with a sign
  have hsign : ∀ a b : Nat, a.repr ≠ "-" ++ b.repr := by
    intro a b h
    have hmem : '-' ∈ a.repr.toList := by rw [h]; simp
    exact absurd (Text.isDigit_of_mem_repr hmem) (by decide)
  intro v w h
  refine Int64.toInt_inj.1 ?_
  rw [wordText, wordText, Int.repr_eq_if, Int.repr_eq_if] at h
  split_ifs at h with hv hw hw
  · have hn := hrepr h
    omega
  · exact absurd h (hsign _ _)
  · exact absurd h.symm (hsign _ _)
  · have hn := hrepr ((String.append_right_inj _).1 h)
    omega

theorem isLine_wordText (v : Int64) : IsLine (wordText v) := by
  have hsign : IsLine "-" := by decide
  rw [wordText, Int.repr_eq_if]
  split
  · exact isLine_repr _
  · exact hsign.append (isLine_repr _)

theorem BinaryOp.text_injective : Function.Injective BinaryOp.text := by
  intro op op' h
  cases op <;> cases op' <;> simp_all [text]

namespace Instr

theorem text_injective : Function.Injective text := by
  -- a constant has its own keyword, and so has each operation
  have hconst : ∀ v op, text (.const v) ≠ text (.binary op) := by
    intro v op h
    have hc := congrArg (fun s => s.toList[4]?) h
    cases op <;> simp [text, BinaryOp.text] at hc
  have hdrop : ∀ op, text (.binary op) ≠ text .drop := by
    intro op
    cases op <;> decide
  have hfirst : ∀ v, text (.const v) ≠ text .drop := by
    intro v h
    have hc := congrArg (fun s => s.toList[0]?) h
    simp [text] at hc
  intro i j h
  cases i with
  | const v =>
    cases j with
    | const w => rw [wordText_injective ((String.append_right_inj _).1 h)]
    | binary op => exact absurd h (hconst v op)
    | drop => exact absurd h (hfirst v)
  | binary op =>
    cases j with
    | const w => exact absurd h.symm (hconst w op)
    | binary op' => rw [BinaryOp.text_injective h]
    | drop => exact absurd h (hdrop op)
  | drop =>
    cases j with
    | const w => exact absurd h.symm (hfirst w)
    | binary op => exact absurd h.symm (hdrop op)
    | drop => rfl

theorem isLine_text (i : Instr) : IsLine i.text := by
  cases i with
  | const v =>
    have hkey : IsLine "i64.const " := by decide
    exact hkey.append (isLine_wordText v)
  | binary op => cases op <;> decide
  | drop => decide

theorem text_ne_empty (i : Instr) : i.text ≠ "" := by
  cases i with
  | const v => simp [text]
  | binary op => cases op <;> decide
  | drop => decide

end Instr

namespace Code

/-! ## Listings -/

theorem getLast?_ne_empty {ls : List String} (h : ∀ l ∈ ls, l ≠ "") : ls.getLast? ≠ some "" :=
  fun hl => h "" (List.mem_of_getLast? hl) rfl

theorem lines_listing (code : Code) : Text.lines code.listing = code.map Instr.text := by
  refine Text.lines_unlines ?_ (getLast?_ne_empty ?_)
  · exact List.forall_mem_map.2 fun i _ => i.isLine_text
  · exact List.forall_mem_map.2 fun i _ => i.text_ne_empty

theorem lines_listing_newline {code : Code} (hne : code ≠ []) :
    Text.lines (code.listing ++ "\n") = code.map Instr.text := by
  refine Text.lines_unlines_newline ?_ (by simpa using hne)
  exact List.forall_mem_map.2 fun i _ => i.isLine_text

theorem listing_injective : Function.Injective listing := by
  intro xs ys h
  have hlines := congrArg Text.lines h
  rw [lines_listing, lines_listing] at hlines
  exact Instr.text_injective.list_map hlines

/-! ## Modules -/

/-- The line that names the entry point of a module. -/
def header (name : String) : String :=
  "  (func $" ++ name ++ " (export \"" ++ name ++ "\") (result i64)"

/-- The lines of a module, without the parentheses that close it. -/
def moduleLines (code : Code) (name : String) : List String :=
  "(module" :: header name :: code.map fun i => "    " ++ i.text

theorem moduleText_eq (code : Code) (name : String) :
    code.moduleText name = Text.unlines (code.moduleLines name) ++ "))" := by
  have hopen : "(module\n  (func $" = "(module" ++ ("\n" ++ "  (func $") := by decide
  have hline : ∀ i : Instr, "\n    " ++ i.text = "\n" ++ ("    " ++ i.text) := by
    intro i
    have hindent : "\n    " = "\n" ++ "    " := by decide
    rw [hindent, String.append_assoc]
  have hlines : Text.unlines (code.moduleLines name) = "(module" ++ (("\n" ++ header name) ++
      String.join (code.map fun i => "\n" ++ ("    " ++ i.text))) := by
    rw [moduleLines, Text.unlines_cons, List.map_cons, List.map_map, String.join_cons]
    rfl
  rw [hlines]
  unfold moduleText header
  rw [hopen]
  simp only [hline, String.append_assoc]

/-- A block makes a module if it keeps the discipline of the stack and the name is one. -/
theorem toModule_eq_ok_iff {code : Code} {name text : String} : code.toModule name = .ok text ↔
    heightFrom 0 0 code = .ok 1 ∧ isEntryPoint name = true ∧ code.moduleText name = text := by
  unfold toModule
  constructor
  · intro h
    split at h
    · cases h
    · rename_i height hheight
      split_ifs at h with h1 hname
      cases h
      exact ⟨h1 ▸ hheight, hname, rfl⟩
  · rintro ⟨hheight, hname, rfl⟩
    simp only [hheight, if_pos hname, if_true]

/-- An empty block leaves no value. -/
theorem ne_nil_of_heightFrom {code : Code} (h : heightFrom 0 0 code = .ok 1) : code ≠ [] := by
  rintro rfl
  cases h

theorem not_mem_of_isEntryPoint {name : String} (h : isEntryPoint name = true) {c : Char}
    (hc : c.isAlphanum = false) (hu : c ≠ '_') : c ∉ name.toList := by
  intro hm
  rcases ((isEntryPoint_iff name).1 h).2 c hm with ha | ha
  · rw [hc] at ha; cases ha
  · exact hu ha

theorem isLine_header {name : String} (h : isEntryPoint name = true) : IsLine (header name) := by
  have hname : IsLine name :=
    ⟨not_mem_of_isEntryPoint h rfl (by decide), not_mem_of_isEntryPoint h rfl (by decide)⟩
  have hopen : IsLine "  (func $" := by decide
  have hexport : IsLine " (export \"" := by decide
  have hresult : IsLine "\") (result i64)" := by decide
  exact (((hopen.append hname).append hexport).append hname).append hresult

theorem isLine_of_mem_moduleLines {code : Code} {name : String} (h : isEntryPoint name = true) :
    ∀ l ∈ code.moduleLines name, IsLine l ∧ l ≠ "" := by
  intro l hl
  rw [moduleLines, List.mem_cons, List.mem_cons, List.mem_map] at hl
  rcases hl with rfl | rfl | ⟨i, -, rfl⟩
  · decide
  · exact ⟨isLine_header h, by simp [header]⟩
  · have hindent : IsLine "    " := by decide
    exact ⟨hindent.append i.isLine_text, by simp⟩

theorem lines_unlines_moduleLines {name : String} (h : isEntryPoint name = true) (code : Code) :
    Text.lines (Text.unlines (code.moduleLines name)) = code.moduleLines name :=
  Text.lines_unlines (fun l hl => (isLine_of_mem_moduleLines h l hl).1)
    (getLast?_ne_empty fun l hl => (isLine_of_mem_moduleLines h l hl).2)

theorem toList_header (name : String) : ∃ rest,
    (header name).toList = "  (func $".toList ++ (name.toList ++ ' ' :: rest) := by
  refine ⟨"(export \"".toList ++ name.toList ++ "\") (result i64)".toList, ?_⟩
  have hexport : " (export \"".toList = ' ' :: "(export \"".toList := rfl
  simp only [header, String.toList_append, hexport, List.append_assoc, List.cons_append]

/-- The name ends at the first space after it, since it has none itself. -/
theorem header_inj {a b : String} (ha : isEntryPoint a = true) (hb : isEntryPoint b = true)
    (h : header a = header b) : a = b := by
  have hsa : ' ' ∉ a.toList := not_mem_of_isEntryPoint ha rfl (by decide)
  have hsb : ' ' ∉ b.toList := not_mem_of_isEntryPoint hb rfl (by decide)
  obtain ⟨resta, hlista⟩ := toList_header a
  obtain ⟨restb, hlistb⟩ := toList_header b
  rw [h, hlistb] at hlista
  have hsplit := congrArg (List.splitOn ' ') (List.append_cancel_left hlista)
  rw [List.splitOn_append_cons_self_of_not_mem hsa, List.splitOn_append_cons_self_of_not_mem hsb]
    at hsplit
  exact String.toList_inj.1 (List.cons.inj hsplit).1.symm

theorem moduleText_inj {xs ys : Code} {a b : String} (ha : isEntryPoint a = true)
    (hb : isEntryPoint b = true) (h : xs.moduleText a = ys.moduleText b) : xs = ys ∧ a = b := by
  rw [moduleText_eq, moduleText_eq, String.append_left_inj] at h
  have hlines := congrArg Text.lines h
  rw [lines_unlines_moduleLines ha, lines_unlines_moduleLines hb, moduleLines, moduleLines] at hlines
  obtain ⟨-, hrest⟩ := List.cons.inj hlines
  obtain ⟨hheader, hbody⟩ := List.cons.inj hrest
  refine ⟨List.map_injective_iff.2 ?_ hbody, header_inj ha hb hheader⟩
  intro i j hij
  exact Instr.text_injective ((String.append_right_inj _).1 hij)

/-- What is printed of code determines it. Two modules with the same text have the same block and the
same entry point, and two listings with the same text the same block. A module consists of two
headers that name its entry point and of a line for each instruction, in order, and is closed at the
end of the last. -/
theorem text_determines_code :
    (∀ (xs ys : Code) (a b text : String), xs.toModule a = .ok text → ys.toModule b = .ok text →
      xs = ys ∧ a = b) ∧
    (∀ xs ys : Code, xs.listing = ys.listing → xs = ys) ∧
    ∀ (xs : Code) (a text : String), xs.toModule a = .ok text →
      xs ≠ [] ∧ text = Text.unlines (xs.moduleLines a) ++ "))" ∧
        ∀ l ∈ xs.moduleLines a, '\n' ∉ l.toList := by
  refine ⟨fun xs ys a b text hx hy => ?_, fun xs ys h => listing_injective h,
    fun xs a text h => ?_⟩
  · obtain ⟨-, ha, hxt⟩ := toModule_eq_ok_iff.1 hx
    obtain ⟨-, hb, hyt⟩ := toModule_eq_ok_iff.1 hy
    exact moduleText_inj ha hb (hxt.trans hyt.symm)
  · obtain ⟨hheight, ha, rfl⟩ := toModule_eq_ok_iff.1 h
    exact ⟨ne_nil_of_heightFrom hheight, moduleText_eq xs a,
      fun l hl => (isLine_of_mem_moduleLines ha l hl).1.1⟩

/-- The module of the least word under a name with all kinds of characters can be read in one way
only. -/
theorem text_determines_code_least_word :
    let code : Code := [.const Int64.minValue]
    let text := "(module\n  (func $Run_1 (export \"Run_1\") (result i64)\n" ++
      "    i64.const -9223372036854775808))"
    code.toModule "Run_1" = .ok text ∧
      ∀ (ys : Code) (b : String), ys.toModule b = .ok text → ys = code ∧ b = "Run_1" := by
  intro code text
  have h : code.toModule "Run_1" = .ok text := by decide +kernel
  exact ⟨h, fun ys b hy => text_determines_code.1 ys code b "Run_1" text hy h⟩

end Code

end StackLisp
