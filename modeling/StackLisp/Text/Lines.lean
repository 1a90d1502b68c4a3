/-
Lines of a text. A line ends at a line feed, which takes one carriage return before it along; text
after the last line feed is a line unless it is empty.
-/

namespace StackLisp.Text

/-- Cuts a text into its lines, without their ends. -/
def cutLines : List Char → List (List Char)
  | [] => []
  | '\n' :: r => [] :: cutLines r
  | '\r' :: '\n' :: r => [] :: cutLines r
  | c :: r =>
    match cutLines r with
    | [] => [[c]]
    | line :: rest => (c :: line) :: rest

def lines (s : String) : List String := (cutLines s.toList).map String.ofList

/-- Lines put together with a line feed between any two. -/
def unlines (ls : List String) : String := "\n".intercalate ls

end StackLisp.Text
