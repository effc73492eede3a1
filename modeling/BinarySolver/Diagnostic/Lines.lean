/-
# BinarySolver.Diagnostic.Lines -- lines of a source, and columns in them

Spans count octets from the start of a source.  A reader counts lines, characters in
a line, and columns on a screen.
-/
import BinarySolver.Unicode.Columns

namespace BinarySolver

set_option autoImplicit false

/-- A line without its end, and the octets that it takes with it. -/
structure Line where
  number : Nat
  text : List Char
  start : Nat
  stop : Nat
deriving DecidableEq

namespace Line

/-- The length of a text in UTF-8. -/
def octets : List Char → Nat
  | [] => 0
  | c :: cs => c.utf8Size + octets cs

/-- Cuts at line feeds, and at carriage returns in front of them; with each line comes
the number of octets of its end.  Nothing behind the last end is no line. -/
def cut (current : List Char) : List Char → List (List Char × Nat)
  | [] => if current.isEmpty then [] else [(current.reverse, 0)]
  | '\r' :: '\n' :: cs => (current.reverse, 2) :: cut [] cs
  | '\n' :: cs => (current.reverse, 1) :: cut [] cs
  | c :: cs => cut (c :: current) cs

def place (number start : Nat) : List (List Char × Nat) → List Line
  | [] => []
  | (text, ending) :: rest =>
    let stop := start + octets text + ending
    { number, text, start, stop } :: place (number + 1) stop rest

def first : Line := { number := 1, text := [], start := 0, stop := 0 }

/-- The line of an offset: the last one takes what lies beyond the end, and an empty
source has one empty line. -/
def locate (content : String) (offset : Nat) : Line :=
  let lines := place 1 0 (cut [] content.toList)
  match lines.find? fun line => line.start ≤ offset && offset < line.stop with
  | some line => line
  | none => lines.getLastD first

/-- The characters that begin within the first octets. -/
def takeOctets : Nat → List Char → List Char
  | 0, _ => []
  | _, [] => []
  | n + 1, c :: cs => c :: takeOctets (n + 1 - c.utf8Size) cs

/-- The characters of a line in front of an offset. -/
def before (line : Line) (offset : Nat) : List Char :=
  takeOctets (offset - line.start) line.text

/-- Counted from one; an offset in the end of the line stands one further. -/
def characterOf (line : Line) (offset : Nat) : Nat :=
  (line.before offset).length + 1 + (if line.start + octets line.text < offset then 1 else 0)

/-- What is shown for a character: controls by their pictures, a tab by four spaces,
marks of writing direction by the replacement character. -/
def shown (c : Char) : List Char :=
  let n := c.toNat
  if c = '\t' then [' ', ' ', ' ', ' ']
  else if n < 32 then [Char.ofNat (0x2400 + n)]
  else if n = 127 then ['\u2421']
  else if n = 0x200D then []
  else if (0x202A ≤ n && n ≤ 0x202E) || (0x2066 ≤ n && n ≤ 0x2069) then ['\ufffd']
  else [c]

def shownText (cs : List Char) : List Char := cs.flatMap shown

/-- The columns that characters take on a screen, as they stand. -/
def columnsOf (cs : List Char) : Nat := cs.foldl (fun n c => n + Unicode.columns c) 0

def columnOf (line : Line) (offset : Nat) : Nat := columnsOf (shownText (line.before offset))

/-- The pieces of a text between its line feeds; there is one more than there are line feeds. -/
def pieces : List Char → List (List Char)
  | [] => [[]]
  | '\n' :: cs => [] :: pieces cs
  | c :: cs =>
    match pieces cs with
    | [] => [[c]]
    | piece :: rest => (c :: piece) :: rest

end Line

end BinarySolver
