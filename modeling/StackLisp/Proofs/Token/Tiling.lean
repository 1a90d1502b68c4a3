/-
The items of a source tile it. Their spans are not empty and follow on one another from byte 0 to the
last byte; no span cuts a character; and the slices of the source at the spans, which are the texts
of the tokens, give the source back.
-/
import Mathlib.Data.String.Basic
import StackLisp.Proofs.Token.Decoding
import StackLisp.Proofs.Token.Rules
import StackLisp.Proofs.Token.Scan

namespace StackLisp

/-! ## Slices -/

theorem Text.byteSize_eq_utf8ByteSize (cs : List Char) :
    byteSize cs = (String.ofList cs).utf8ByteSize := by
  induction cs with
  | nil => rfl
  | cons c r ih =>
    rw [byteSize, ih, String.ofList_cons, String.utf8ByteSize_append, String.utf8ByteSize_singleton]

theorem Text.byteSize_pos {cs : List Char} (h : cs ≠ []) : 0 < byteSize cs := by
  cases cs with
  | nil => exact absurd rfl h
  | cons c r => exact Nat.lt_of_lt_of_le c.utf8Size_pos (Nat.le_add_right _ _)

namespace Span

/-- The part of a source from the first byte of a span to its last. -/
def slice (s : Span) (source : String) : String :=
  String.Pos.Raw.extract source ⟨s.start⟩ ⟨s.stop⟩

/-- `Tiles a b spans`: the spans are not empty, and each starts where the one before it stops, the
first at `a`; the last stops at `b`. -/
def Tiles (a b : Nat) : List Span → Prop
  | [] => a = b
  | s :: spans => s.start = a ∧ s.start < s.stop ∧ Tiles s.stop b spans

theorem slice_eq {source : String} {before text after : List Char}
    (h : source.toList = before ++ (text ++ after)) :
    (⟨Text.byteSize before, Text.byteSize before + Text.byteSize text⟩ : Span).slice source =
      String.ofList text := by
  unfold slice
  rw [String.Pos.Raw.extract.eq_1]
  split
  · rename_i hge
    cases text with
    | nil => rfl
    | cons c r =>
      have := Text.byteSize_pos (List.cons_ne_nil c r)
      simp only at hge
      omega
  · have hb : Text.byteSize before = String.utf8Len before + 0 := by
      rw [Text.byteSize_eq_utf8ByteSize, String.utf8ByteSize_ofList]
      rfl
    have ht : Text.byteSize before + Text.byteSize text =
        String.utf8Len text + Text.byteSize before := by
      rw [Text.byteSize_eq_utf8ByteSize text, String.utf8ByteSize_ofList, Nat.add_comm]
    congr 1
    rw [h]
    exact (String.Pos.Raw.extract.go₁_append_right before (text ++ after) 0 _ _ hb).trans
      (String.Pos.Raw.extract.go₂_append_left text after _ _ ht)

theorem slice_whole (source : String) :
    (⟨0, source.utf8ByteSize⟩ : Span).slice source = source := by
  have h : source.toList = [] ++ (source.toList ++ []) := by simp
  have hs := slice_eq h
  rwa [Text.byteSize, Nat.zero_add, Text.byteSize_eq_utf8ByteSize, String.ofList_toList] at hs

end Span

theorem Text.isValid_byteSize {source : String} {before after : List Char}
    (h : source.toList = before ++ after) : String.Pos.Raw.IsValid source ⟨byteSize before⟩ := by
  rw [String.Pos.Raw.isValid_iff_exists_append]
  refine ⟨String.ofList before, String.ofList after, ?_, ?_⟩
  · rw [← String.ofList_append, ← h, String.ofList_toList]
  · rw [byteSize_eq_utf8ByteSize]
    rfl

/-- A part of a source starts and stops between characters. -/
theorem Span.isValid_of_append {source : String} {before text after : List Char}
    (h : source.toList = before ++ (text ++ after)) :
    String.Pos.Raw.IsValid source ⟨Text.byteSize before⟩ ∧
      String.Pos.Raw.IsValid source ⟨Text.byteSize before + Text.byteSize text⟩ := by
  refine ⟨Text.isValid_byteSize h, ?_⟩
  rw [← List.append_assoc] at h
  rw [← Text.byteSize_append]
  exact Text.isValid_byteSize h

/-! ## Items -/

theorem Lexeme.text_ne_nil {cs : List Char} : ∀ l ∈ ofText cs, l.text ≠ [] :=
  forall_mem_ofText (fun c r => (isMunched_first c r).text_ne_nil) cs

theorem Lexeme.span_itemAt (l : Lexeme) (start : Nat) :
    (l.itemAt start).span = ⟨start, start + Text.byteSize l.text⟩ := by
  unfold itemAt Item.span
  cases l.kind? <;> rfl

theorem Tokenizer.text_eq_slice {t : Tokenizer} {source : String} {tok : Token}
    (h : .token tok ∈ t.items source) : tok.text = tok.span.slice source := by
  obtain ⟨before, l, after, -, hsrc, hi⟩ := exists_lexeme_of_mem_items h
  have hspan : tok.span = _ := (congrArg Item.span hi).trans (Lexeme.span_itemAt l _)
  rw [hspan, Span.slice_eq hsrc, (Lexeme.of_token_eq_itemAt hi).2]

theorem Lexeme.tiles_place : ∀ (ls : List Lexeme) (start : Nat), (∀ l ∈ ls, l.text ≠ []) →
    Span.Tiles start (start + Text.byteSize (ls.flatMap text)) ((place start ls).map Item.span)
  | [], start, _ => rfl
  | l :: ls, start, h => by
    rw [List.forall_mem_cons] at h
    rw [place, List.map_cons, span_itemAt, List.flatMap_cons, Text.byteSize_append, ← Nat.add_assoc]
    exact ⟨rfl, Nat.lt_add_of_pos_right (Text.byteSize_pos h.1), tiles_place ls _ h.2⟩

theorem Lexeme.join_slice_place {source : String} : ∀ (ls : List Lexeme) (before : List Char),
    source.toList = before ++ ls.flatMap text →
    String.join ((place (Text.byteSize before) ls).map fun i => i.span.slice source) =
      String.ofList (ls.flatMap text)
  | [], before, _ => rfl
  | l :: ls, before, h => by
    rw [List.flatMap_cons] at h
    have ih := join_slice_place ls (before ++ l.text) (by rw [h, List.append_assoc])
    rw [place, List.map_cons, span_itemAt, Span.slice_eq h, String.join_cons,
      ← Text.byteSize_append, ih, ← String.ofList_append, List.flatMap_cons]

/-- A scan of a source ends after finitely many items. Their spans tile the source in bytes and cut no
character, the text of a token is the slice of the source at its span, and all slices together are
the source. -/
theorem Tokenizer.items_tile (source : String) :
    let items := ({} : Tokenizer).items source
    (({} : Tokenizer).scan source).Yields items ∧
    Span.Tiles 0 source.utf8ByteSize (items.map Item.span) ∧
    (∀ i ∈ items, String.Pos.Raw.IsValid source ⟨i.span.start⟩ ∧
      String.Pos.Raw.IsValid source ⟨i.span.stop⟩) ∧
    (∀ t, .token t ∈ items → t.text = t.span.slice source) ∧
    String.join (items.map fun i => i.span.slice source) = source := by
  have hall := Lexeme.flatMap_text_ofText source.toList
  refine ⟨Scan.yields_items _ source, ?_, fun i hi => ?_, fun t ht => text_eq_slice ht, ?_⟩
  · have htiles := Lexeme.tiles_place (Lexeme.ofText source.toList) 0 Lexeme.text_ne_nil
    rwa [hall, Nat.zero_add, Text.byteSize_eq_utf8ByteSize, String.ofList_toList,
      ← items_default] at htiles
  · obtain ⟨before, l, after, -, hsrc, rfl⟩ := exists_lexeme_of_mem_items hi
    rw [Lexeme.span_itemAt]
    exact Span.isValid_of_append hsrc
  · have hjoin := Lexeme.join_slice_place (Lexeme.ofText source.toList) [] hall.symm
    rwa [hall, String.ofList_toList, Text.byteSize, ← items_default] at hjoin

end StackLisp
