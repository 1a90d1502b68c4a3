/-
Token streams. The items of a source are its lexemes with their places, counted in bytes. A scan
gives the same items one at a time: it keeps the text that is still ahead and how far it has come.
-/
import StackLisp.Text.Bytes
import StackLisp.Token.Lexeme

namespace StackLisp

/-- A lexeme that starts at a byte offset, as an item of the stream. -/
def Lexeme.itemAt (l : Lexeme) (start : Nat) : Item :=
  let span : Span := ⟨start, start + Text.byteSize l.text⟩
  match l.kind? with
  | some kind => .token ⟨kind, String.ofList l.text, span⟩
  | none => .error ⟨.unrecognized, span⟩

/-- Consecutive lexemes as items, the first of them at a byte offset. -/
def Lexeme.place : Nat → List Lexeme → List Item
  | _, [] => []
  | start, l :: ls => l.itemAt start :: place (start + Text.byteSize l.text) ls

/-- What a stream reports: blank runs too, or only the other items. -/
structure Tokenizer where
  skipsBlanks : Bool := false
deriving DecidableEq, Repr

def Tokenizer.keeps (t : Tokenizer) (i : Item) : Bool := !(t.skipsBlanks && i.isWhitespace)

/-- All items of a source. -/
def Tokenizer.items (t : Tokenizer) (source : String) : List Item :=
  (Lexeme.place 0 (Lexeme.ofText source.toList)).filter t.keeps

/-! ## Item by item -/

/-- A scan that is under way. -/
structure Scan where
  tokenizer : Tokenizer
  /-- The byte offset that the scan has reached. -/
  offset : Nat
  /-- The text from there on. -/
  ahead : List Char
deriving DecidableEq, Repr

def Tokenizer.scan (t : Tokenizer) (source : String) : Scan := ⟨t, 0, source.toList⟩

/-- Passes over the blank characters ahead. -/
def Scan.passBlanks (s : Scan) : Scan :=
  ⟨s.tokenizer, s.offset + Text.byteSize (s.ahead.takeWhile Text.isBlank),
    s.ahead.dropWhile Text.isBlank⟩

/-- The next item, or none at the end, and the scan after it. -/
def Scan.next (s : Scan) : Option Item × Scan :=
  let s := if s.tokenizer.skipsBlanks then s.passBlanks else s
  match s.ahead with
  | [] => (none, s)
  | c :: r =>
    let l := Lexeme.first c r
    (some (l.1.itemAt s.offset), ⟨s.tokenizer, s.offset + Text.byteSize l.1.text, l.2⟩)

/-- Advances several scans in turn, as a schedule of their positions says, and gives each answer.
A position without a scan answers as a scan that has ended. -/
def Scan.interleave : List Scan → List Nat → List (Option Item)
  | _, [] => []
  | scans, i :: schedule =>
    match scans[i]? with
    | some s =>
      let step := s.next
      step.1 :: interleave (scans.set i step.2) schedule
    | none => none :: interleave scans schedule

end StackLisp
