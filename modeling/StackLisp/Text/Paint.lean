/-
Coloured text for a terminal. Paint is written as an escape sequence before the text and a reset
after it, around empty text too.
-/

namespace StackLisp.Text

inductive Colour
  | red | green | yellow | blue | magenta | cyan
deriving DecidableEq, Repr

/-- The parameter that selects a colour for the foreground. -/
def Colour.parameter : Colour → String
  | .red => "31"
  | .green => "32"
  | .yellow => "33"
  | .blue => "34"
  | .magenta => "35"
  | .cyan => "36"

private def escaped (parameter text : String) : String :=
  "\x1b[" ++ parameter ++ "m" ++ text ++ "\x1b[0m"

def Colour.paint (c : Colour) (text : String) : String := escaped c.parameter text

def Colour.paintBold (c : Colour) (text : String) : String := escaped ("1;" ++ c.parameter) text

/-- Text in a colour, or as it is where there is none. -/
def paint? : Option Colour → String → String
  | some c, text => c.paint text
  | none, text => text

end StackLisp.Text
