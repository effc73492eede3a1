/-
# BinarySolver.Main -- the program

Everything that the program does is decided in `BinarySolver.Command`; here it is
only written out.
-/
import BinarySolver.Command

set_option autoImplicit false

open BinarySolver

/-- Writes what a run says and ends as it says. -/
def main (arguments : List String) : IO UInt32 := do
  match Command.run arguments with
  | .usage =>
    IO.eprint "usage: solve LEFT OP RIGHT | render TYPE\n"
    return 2
  | .done code stdout stderr =>
    IO.print stdout
    IO.eprint stderr
    return code.toUInt32
