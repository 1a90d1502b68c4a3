/-
Lines as they were typed. A backspace takes back the cluster typed before it, if there is one. The
size of a cluster is noted in one byte, so that of a cluster of 256 bytes or more only what is left
over 256 is taken back; where that would cut a character, the line has no edited form.
-/
import StackLisp.Text.Bytes
import StackLisp.Text.Cluster.Split

namespace StackLisp.CommandLine

def backspace : Char := '\x08'

/-- What was kept of a line: its characters and the noted sizes of its clusters, the last first. -/
structure Typed where
  text : List Char := []
  sizes : List UInt8 := []
deriving DecidableEq, Repr

namespace Typed

def put (t : Typed) (cluster : List Char) : Typed :=
  ⟨cluster.reverse ++ t.text, (Text.byteSize cluster).toUInt8 :: t.sizes⟩

/-- Takes the last cluster back. -/
def takeBack? (t : Typed) : Option Typed :=
  match t.sizes with
  | [] => some t
  | size :: sizes => (Text.dropBytes? t.text size.toNat).map fun text => ⟨text, sizes⟩

def type? (t : Typed) (cluster : List Char) : Option Typed :=
  if cluster = [backspace] then t.takeBack? else some (t.put cluster)

end Typed

/-- The line that is left once every backspace has taken effect. -/
def edited? (line : String) : Option String :=
  ((Text.Cluster.split line.toList).foldlM Typed.type? {}).map fun t =>
    String.ofList t.text.reverse

end StackLisp.CommandLine
