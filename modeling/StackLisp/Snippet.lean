/-
Snippets: the lines of a source that carry labels, drawn with each label under the text that it
marks. Labels come in the order of the source, none spans two lines, and no two overlap. A line of
the source ends at a line feed and nowhere else. All widths are counted in bytes.
-/
import StackLisp.Text.Bytes
import StackLisp.Text.Lines
import StackLisp.Text.Paint
import StackLisp.Token.Basic

namespace StackLisp.Snippet

open Text (Colour)

/-- A remark on a part of the source, and the colour of the marks that point at it. -/
structure Label where
  span : Span
  colour? : Option Colour
  text : String
deriving DecidableEq, Repr

/-! ## Lines cut into segments -/

/-- The characters at the front of a text that fit into a number of bytes, and those after them. -/
def splitBytes : Nat → List Char → List Char × List Char
  | _, [] => ([], [])
  | n, c :: r =>
    if c.utf8Size ≤ n then
      let more := splitBytes (n - c.utf8Size) r
      (c :: more.1, more.2)
    else ([], c :: r)

/-- A stretch of a line, labelled or not. -/
structure Segment where
  text : List Char
  label? : Option Label
deriving DecidableEq, Repr

namespace Segment

def width (s : Segment) : Nat := Text.byteSize s.text

/-- The width of the marks before the middle of a segment. -/
def left (s : Segment) : Nat := s.width / 2

/-- The width of the marks after the middle of a segment. -/
def right (s : Segment) : Nat := s.width - s.left - 1

/-- The width of several segments. -/
def widthAll : List Segment → Nat
  | [] => 0
  | s :: rest => s.width + widthAll rest

end Segment

/-- The stretch between two labels, if there is any. -/
def plain (text : List Char) : List Segment := if text.isEmpty then [] else [⟨text, none⟩]

/-- Cuts the rest of a line, which starts at a byte offset of the source, at its labels. -/
def segments (start : Nat) (text : List Char) : List Label → List Segment
  | [] => plain text
  | l :: ls =>
    let before := splitBytes (l.span.start - start) text
    let marked := splitBytes (l.span.stop - l.span.start) before.2
    plain before.1 ++ ⟨marked.1, some l⟩ :: segments l.span.stop marked.2 ls

structure Line where
  number : Nat
  segments : List Segment
deriving DecidableEq, Repr

/-- The labelled lines among some, the first of which has a number and starts at a byte offset. -/
def labelledLines (labels : List Label) (number start : Nat) : List (List Char) → List Line
  | [] => []
  | text :: rest =>
    let stop := start + Text.byteSize text
    let here := labels.filter fun l => start ≤ l.span.start && l.span.start < stop
    let more := labelledLines labels (number + 1) (stop + 1) rest
    if here.isEmpty then more else ⟨number, segments start text here⟩ :: more

/-! ## Drawing -/

def spaces (n : Nat) : String := String.ofList (List.replicate n ' ')

def dashes (n : Nat) : String := String.ofList (List.replicate n '─')

namespace Segment

def paint (s : Segment) (marks : String) : String :=
  match s.label? with
  | some l => Text.paint? l.colour? marks
  | none => marks

/-- The text of a segment in its colour. -/
def shown (s : Segment) : String := s.paint (String.ofList s.text)

/-- The brace under a segment. -/
def brace (s : Segment) : String :=
  match s.label? with
  | some _ => s.paint (dashes s.left ++ "┬" ++ dashes s.right)
  | none => spaces s.width

/-- The part of the stem that hangs from a segment's brace. -/
def stem (s : Segment) : String :=
  match s.label? with
  | some _ => s.paint (spaces s.left ++ "│" ++ spaces s.right)
  | none => spaces s.width

end Segment

/-- The lines that carry the texts of the labels, the leftmost label first; `before` is the width of
what stands left of the segments. -/
def remarks (before : Nat) : List Segment → List String
  | [] => []
  | s :: rest =>
    let more := remarks (before + s.width) rest
    match s.label? with
    | none => more
    | some l =>
      let after := Segment.widthAll rest
      (spaces before ++ String.join ((s :: rest).map Segment.stem))
        :: (spaces (before + s.left) ++ s.paint ("╰" ++ dashes (s.right + after + 1))
            ++ " " ++ l.text)
        :: more

/-- A line with its labels; line numbers are set to a width. -/
def Line.draw (digits : Nat) (l : Line) : List String :=
  let number := l.number.repr
  let marks := String.join (l.segments.map Segment.brace) :: remarks 0 l.segments
  (spaces (digits - number.length) ++ number ++ " │ " ++ String.join (l.segments.map Segment.shown))
    :: marks.map fun m => spaces digits ++ " ┆ " ++ m

/-- The snippet of a named source; none if no label marks a part of it. -/
def draw (name source : String) (labels : List Label) : Option String :=
  let drawn := labelledLines labels 1 0 (source.toList.splitOn '\n')
  match drawn.getLast? with
  | none => none
  | some last =>
    let digits := last.number.repr.length
    some (Text.unlines
      ([spaces digits ++ " ╭─[" ++ name ++ "]", spaces digits ++ " │"]
        ++ drawn.flatMap (Line.draw digits) ++ [dashes (digits + 1) ++ "╯"]))

end StackLisp.Snippet
