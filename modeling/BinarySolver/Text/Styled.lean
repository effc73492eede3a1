/-
# BinarySolver.Text.Styled -- text in colours

A line is a row of cells, each a character in a style.  It is written plainly, or
with a run of escape sequences around every stretch of one style.
-/

namespace BinarySolver.Text

set_option autoImplicit false

inductive Style where
  | plain
  /-- Titles. -/
  | strong
  /-- The frame of a snippet and what is beside the point. -/
  | frame
  | error
  | warning
deriving DecidableEq

namespace Style

def bold : List Char := ['\x1b', '[', '1', 'm']

/-- What switches a style on; the plain style needs nothing. -/
def switchOn : Style → List Char
  | plain => []
  | strong => bold
  | frame => bold ++ ['\x1b', '[', '9', '4', 'm']
  | error => bold ++ ['\x1b', '[', '9', '1', 'm']
  | warning => bold ++ ['\x1b', '[', '3', '3', 'm']

def switchOff : Style → List Char
  | plain => []
  | _ => ['\x1b', '[', '0', 'm']

end Style

structure Cell where
  char : Char
  style : Style
deriving DecidableEq

abbrev Row := List Cell

namespace Row

def piece (style : Style) (text : List Char) : Row := text.map fun c => ⟨c, style⟩

def spaces (n : Nat) : Row := List.replicate n ⟨' ', .plain⟩

/-- Writes cells over a row from a column on, with spaces in front of them where the row is
too short.  Writing no cells leaves the row as it is. -/
def put (row : Row) (column : Nat) (cells : Row) : Row :=
  if cells.isEmpty then row
  else
    row.take column ++ spaces (column - row.length) ++ cells ++ row.drop (column + cells.length)

/-- Writes cells in the place of all those from `start` up to `stop`, if the row is so long. -/
def replace (row : Row) (start stop : Nat) (cells : Row) : Row :=
  if row.length < start ∨ row.length < stop then row
  else row.take start ++ cells ++ row.drop stop

def toPlain (row : Row) : List Char := row.map Cell.char

/-- The cells behind one of style `style`: the run goes on, or ends and another begins. -/
def colouredFrom (style : Style) : Row → List Char
  | [] => style.switchOff
  | c :: cs =>
    if c.style = style then c.char :: colouredFrom style cs
    else style.switchOff ++ c.style.switchOn ++ c.char :: colouredFrom c.style cs

def toColoured (row : Row) : List Char := colouredFrom .plain row

def toText (colour : Bool) (row : Row) : List Char :=
  if colour then row.toColoured else row.toPlain

end Row

end BinarySolver.Text
