/-
Texts measured and cut in bytes of UTF-8.
-/

namespace StackLisp.Text

/-- The number of bytes that a text takes in UTF-8. -/
def byteSize : List Char → Nat
  | [] => 0
  | c :: r => c.utf8Size + byteSize r

theorem byteSize_append (a b : List Char) : byteSize (a ++ b) = byteSize a + byteSize b := by
  induction a with
  | nil => simp [byteSize]
  | cons c r ih => simp [byteSize, ih, Nat.add_assoc]

/-- Leaves the first `n` bytes of a text off, unless that would cut a character or the text is
shorter. -/
def dropBytes? : List Char → Nat → Option (List Char)
  | cs, 0 => some cs
  | [], _ + 1 => none
  | c :: r, n + 1 => if c.utf8Size ≤ n + 1 then dropBytes? r (n + 1 - c.utf8Size) else none

end StackLisp.Text
