/-
# BinarySolver.Text.Hex -- lower case hexadecimal numbers
-/

namespace BinarySolver.Text

set_option autoImplicit false

/-- As few digits as the number needs. -/
def hex (n : Nat) : List Char := Nat.toDigits 16 n

/-- At least `width` digits, zeros in front. -/
def hexPadded (width n : Nat) : List Char :=
  List.replicate (width - (hex n).length) '0' ++ hex n

end BinarySolver.Text
