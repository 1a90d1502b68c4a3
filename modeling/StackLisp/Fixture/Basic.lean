/-
Fixtures: files that hold a source together with the errors and the output it is expected to give.
A fixture has three sections with a line of dashes between any two: errors, outputs and source.
In the first two, a line that starts with a semicolon is a comment; comments keep the numbers of
their lines, so that they can be put back.
-/
import StackLisp.Text.Blank
import StackLisp.Text.Lines

namespace StackLisp

structure Fixture where
  errors : List String
  outputs : List String
  source : String
  /-- The comments with the numbers of their lines, counted from 0. -/
  comments : List (Nat × String)
  /-- How many lines the section of errors has, comments included. -/
  errorLines : Nat
  /-- How many lines the section of outputs has, comments included. -/
  outputLines : Nat
deriving DecidableEq, Repr

namespace Fixture

/-- The line between two sections. -/
def separator : String := "---"

def isSeparator (line : String) : Bool := Text.trimEnd line == separator

def isComment (line : String) : Bool := (Text.trimStart line).toList.head? == some ';'

/-- The lines up to the first separator, and those after it. -/
def cutSection (lines : List (Nat × String)) : List (Nat × String) × List (Nat × String) :=
  let before := lines.takeWhile fun l => !isSeparator l.2
  (before, lines.drop (before.length + 1))

/-- The lines of a source put together; blank lines before its first text are left out. -/
def joinSource (lines : List String) : String := Text.unlines (lines.dropWhile (· == ""))

def read (contents : String) : Fixture :=
  let numbered := (Text.lines contents).zipIdx.map fun l => (l.2, l.1)
  let first := cutSection numbered
  let second := cutSection first.2
  let content (lines : List (Nat × String)) := (lines.filter fun l => !isComment l.2).map (·.2)
  { errors := content first.1
    outputs := content second.1
    source := joinSource (second.2.map (·.2))
    comments := (first.1 ++ second.1).filter fun l => isComment l.2
    errorLines := first.1.length
    outputLines := second.1.length }

/-! ## Writing a fixture again -/

/-- The line at which a comment belongs once there are other numbers of errors and outputs. Among
the errors it moves by their growth, and after them by the growth of the outputs less that of the
errors; it never moves above the first line. -/
def shifted (f : Fixture) (errors outputs line : Nat) : Nat :=
  let errorGrowth : Int := errors - f.errorLines
  let outputGrowth : Int := outputs - f.outputLines
  if line < f.errorLines then (line + errorGrowth).toNat
  else (line + (outputGrowth - errorGrowth)).toNat

/-- The comments that are due before the next line when there are `written` lines, and the comments
still waiting. Each comment is itself a line. -/
def due (place : Nat → Nat) (written : Nat) :
    List (Nat × String) → List String × List (Nat × String)
  | [] => ([], [])
  | c :: cs =>
    if place c.1 ≤ written then
      let more := due place (written + 1) cs
      (c.2 :: more.1, more.2)
    else ([], c :: cs)

/-- Lines with the comments that are due before each of them, and the comments still waiting. -/
def weave (place : Nat → Nat) (written : Nat) (waiting : List (Nat × String)) :
    List String → List String × List (Nat × String)
  | [] => ([], waiting)
  | line :: lines =>
    let before := due place written waiting
    let more := weave place (written + before.1.length + 1) before.2 lines
    (before.1 ++ line :: more.1, more.2)

/-- The fixture's file with other errors and outputs. Comments stay near where they were; what has
not found its place before the last output comes after it. -/
def stitch (f : Fixture) (errors outputs : List String) : String :=
  let place := f.shifted errors.length outputs.length
  let first :=
    if errors.isEmpty then due place 0 f.comments else weave place 0 f.comments errors
  let second := weave place (first.1.length + 1) first.2 outputs
  let late := second.2.map (·.2)
  let lines := first.1 ++ separator :: second.1 ++ late ++ separator :: Text.lines f.source
  Text.unlines lines ++ "\n"

end Fixture

end StackLisp
