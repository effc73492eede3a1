/-
# BinarySolver.Diagnostic.Window -- the part of a long line that is shown

A snippet is to fit a screen.  A line that does not fit is shown through a window,
chosen so that the marks on it and their labels are seen, and dots stand at the ends of
the window where something is cut off.  Wide blanks at the start of a line are cut off
even if the line would fit.
-/
import BinarySolver.Diagnostic.Lines
import BinarySolver.Text.Blank
import BinarySolver.Text.Styled

namespace BinarySolver

set_option autoImplicit false

open Text (Row)

/-- What there is to be seen of a line: where its text begins after the blanks, the
columns from the first mark to the last, the column behind the last label, and the length. -/
structure Extent where
  indent : Nat
  start : Nat
  stop : Nat
  labelStop : Nat
  length : Nat
deriving DecidableEq

/-- The columns of a line from `left` on, up to `right`. -/
structure Window where
  left : Nat
  right : Nat
deriving DecidableEq

namespace Window

/-- The columns of the screen. -/
def screen : Nat := 140

/-- What stands for the text that is cut off. -/
def dots : Row := Row.piece .frame ['.', '.', '.']

/-- The columns of the blanks that a line begins with; a line of blanks only has none. -/
def indentOf (text : List Char) : Nat :=
  if text.all Text.isBlank then 0
  else (text.takeWhile Text.isBlank).foldl (fun n c => n + if c = '\t' then 4 else 1) 0

/-- A window of `width` columns, the first of these that holds: the whole line without wide
blanks; the line from its text on; all marks and labels in the middle; all marks, with two
fifths of what is left over in front of them.  Else all marks, however wide they are.
Six columns are kept free around what is to be seen. -/
def choose (width : Nat) (e : Extent) : Window :=
  let indent := e.indent - 6
  let start := e.start - 6
  let stop := e.stop + 6
  let labelStop := e.labelStop + 6
  let left := if 20 < indent then indent - 16 else 0
  let right := max e.length left
  if right - left ≤ width then { left, right }
  else if labelStop - indent ≤ width then { left := indent, right := indent + width }
  else if labelStop - start ≤ width then
    let left := start - (width - (labelStop - start)) / 2
    { left, right := left + width }
  else if stop - start ≤ width then
    let left := start - (width - (stop - start)) / 5 * 2
    { left, right := left + width }
  else { left := start, right := stop }

/-- Leaves out characters until `n` columns are gone, and counts the columns: a wide
character at the end may take one more with it. -/
def dropColumns : Nat → List Char → Nat × List Char
  | _, [] => (0, [])
  | n, c :: cs =>
    if n = 0 then (0, c :: cs)
    else
      let (gone, rest) := dropColumns (n - Unicode.columns c) cs
      (Unicode.columns c + gone, rest)

/-- The characters that fit into `n` columns. -/
def takeColumns : Nat → List Char → List Char
  | _, [] => []
  | n, c :: cs =>
    if Unicode.columns c ≤ n then c :: takeColumns (n - Unicode.columns c) cs else []

/-- A text seen through a window, and the columns that are cut off on its left: those of the
window, but for a wide character that the dots do not cover. -/
def clip (width : Nat) (w : Window) (text : List Char) : Row × Nat :=
  let length := Line.columnsOf text
  let left := min w.left length
  let right := if length - w.left ≤ width then length else min length w.right
  let (skipped, kept) := dropColumns left text
  let code := takeColumns (right - left) kept
  let cut := max left skipped
  let (covered, rest) := if w.left = 0 then (0, code) else dropColumns dots.length code
  let start : Row := if w.left = 0 then [] else dots
  let row : Row := Row.put start covered (Row.piece .plain rest)
  let last := code.length - (dropColumns dots.length code.reverse).2.length
  (if right < length then Row.put row (covered + rest.length - last) dots else row,
    if w.left = 0 then cut else cut - (covered - dots.length))

end Window

end BinarySolver
