/-
Clusters: the characters of a text that a reader takes for one, such as a letter with its accents, a
syllable, a flag or a joined picture. `split` cuts a text wherever a character does not join what
comes before it.
-/
import StackLisp.Text.Cluster.Class

namespace StackLisp.Text.Cluster

/-! ## Joining

The classes of the characters before a border are listed from the border to the left. -/

/-- Whether a pictograph goes on a joined picture: a pictograph, extending characters and a joiner
come before it. -/
def joinsPicture : List Class → Bool
  | .joiner :: before => (before.dropWhile Class.isExtend).head? = some .pictograph
  | _ => false

/-- Whether a half of a flag is a second half. -/
def joinsFlag (before : List Class) : Bool :=
  (before.takeWhile (· = .indicator)).length % 2 = 1

/-- Whether a consonant goes on a conjunct: a consonant comes before it, and a linker is among the
extending characters between the two. -/
def joinsConjunct (before : List Class) : Bool :=
  (before.takeWhile Class.isInConjunct).contains .linker
    && (before.dropWhile Class.isInConjunct).head? = some .consonant

/-- Whether a part of a syllable of Hangul goes on the syllable before it. -/
def joinsSyllable : Class → Class → Bool
  | .leading, next =>
    next = .leading || next = .vowel || next = .openSyllable || next = .closedSyllable
  | .openSyllable, next | .vowel, next => next = .vowel || next = .trailing
  | .closedSyllable, next | .trailing, next => next = .trailing
  | _, _ => false

/-- Whether there is no border between the characters before and the next one. -/
def joins (before : List Class) (next : Class) : Bool :=
  match before with
  | [] => false
  | last :: _ =>
    if last = .carriageReturn && next = .lineFeed then true
    else if last.isControl || next.isControl then false
    else if next.isExtend || next = .joiner || next = .spacingMark || last = .ahead then true
    else
      joinsSyllable last next
        || (next = .consonant && joinsConjunct before)
        || (next = .pictograph && joinsPicture before)
        || (next = .indicator && joinsFlag before)

/-! ## Splitting -/

/-- Puts a character into the first of some clusters. -/
def putFirst (c : Char) : List (List Char) → List (List Char)
  | [] => [[c]]
  | cluster :: rest => (c :: cluster) :: rest

/-- Splits a text that comes after some characters. -/
def splitAfter (before : List Class) : List Char → List (List Char)
  | [] => []
  | [c] => [[c]]
  | c :: d :: r =>
    let past := Class.ofChar c :: before
    let rest := splitAfter past (d :: r)
    if joins past (Class.ofChar d) then putFirst c rest else [c] :: rest

/-- The clusters of a text. -/
def split (cs : List Char) : List (List Char) := splitAfter [] cs

end StackLisp.Text.Cluster
