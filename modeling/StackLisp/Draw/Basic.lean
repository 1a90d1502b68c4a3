/-
Draws: values made from the front of a string of bytes. Most draws go on with zeros when the bytes
run out; only a draw of a fixed number of bytes fails then.
-/

namespace StackLisp

/-- A value drawn from the front of some bytes, with the bytes left over; none if the bytes do not
suffice. -/
abbrev Draw (α : Type) := StateT (List UInt8) Option α

namespace Draw

variable {α : Type}

/-- The number that some bytes write, the lowest first. -/
def littleEndian : List UInt8 → Nat
  | [] => 0
  | b :: bs => b.toNat + 256 * littleEndian bs

/-- The next `n` bytes; fails if fewer are left. -/
def bytes (n : Nat) : Draw (List UInt8) := fun bs =>
  if bs.length < n then none else some (bs.take n, bs.drop n)

/-- A number of `n` bytes, of which those that are missing are zero. -/
def word (n : Nat) : Draw Nat := fun bs => some (littleEndian (bs.take n), bs.drop n)

/-- A number from 0 to `n` below 256, by one byte; no byte is read for 0. -/
def upTo (n : Nat) : Draw Nat :=
  if n = 0 then return 0 else return (← word 1) % (n + 1)

/-- One of some values, of which there is a first. -/
def choose (x : α) (xs : List α) : Draw α := return (x :: xs).getD (← upTo xs.length) x

/-- A position below `n`, by a number of four bytes that is scaled down. -/
def variant (n : Nat) : Draw Nat := return ((← word 4) * n) >>> 32

/-- The same draw a number of times. -/
def times (d : Draw α) : Nat → Draw (List α)
  | 0 => return []
  | n + 1 => return (← d) :: (← times d n)

/-- Repeats a draw as long as the byte before it is odd, at most a number of times. -/
def manyUpTo (d : Draw α) : Nat → Draw (List α)
  | 0 => return []
  | n + 1 => do
    if (← word 1) % 2 = 1 then return (← d) :: (← manyUpTo d n) else return []

/-- Repeats a draw as long as the byte before it is odd. Each repetition takes its byte, so there
are at most as many of them as bytes. -/
def many (d : Draw α) : Draw (List α) := do manyUpTo d (← get).length

end Draw

end StackLisp
