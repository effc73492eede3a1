/-
# BinarySolver.Numeral.Layout -- how chosen digits are laid out

Which digits are written is one question (`Numeral.shortest`), how they are
written another.  A `Layout` holds the answers to the second: where positional
writing ends, whether the exponent carries its plus sign, which way a tie goes.
-/
import BinarySolver.Numeral.Shortest

namespace BinarySolver.Numeral

set_option autoImplicit false

/-- The decisions of one written form of floats. -/
structure Layout where
  /-- The least exponent of a leading digit that is written positionally. -/
  plainFrom : Int
  /-- The least exponent above it that is not. -/
  plainBelow : Int
  /-- An exponent that is not negative carries a plus sign. -/
  plusSign : Bool
  tie : Tie

def decimalText (n : Nat) : List Char := Nat.toDigits 10 n

namespace Layout

/-- Digits with a point `point` places after their first: zeros fill the gap on
either side, and a whole number keeps one zero behind its point. -/
def positional (digits : List Char) (point : Int) : List Char :=
  if point ≤ 0 then
    '0' :: '.' :: List.replicate (-point).toNat '0' ++ digits
  else if digits.length ≤ point.toNat then
    digits ++ List.replicate (point.toNat - digits.length) '0' ++ ['.', '0']
  else
    digits.take point.toNat ++ '.' :: digits.drop point.toNat

/-- One digit, the others behind a point if there are any, and the exponent. -/
def scientific (plusSign : Bool) (digits : List Char) (exponent : Int) : List Char :=
  let mantissa :=
    match digits with
    | d :: r :: rs => d :: '.' :: r :: rs
    | ds => ds
  let sign := if exponent < 0 then ['-'] else if plusSign then ['+'] else []
  mantissa ++ 'e' :: sign ++ decimalText exponent.natAbs

def decimal (l : Layout) (d : Decimal) : List Char :=
  let digits := decimalText d.digits
  let leading := d.exponent + digits.length - 1
  if l.plainFrom ≤ leading ∧ leading < l.plainBelow then positional digits (leading + 1)
  else scientific l.plusSign digits leading

/-- The text of `m * 2 ^ q` with its sign; zero keeps its sign as well. -/
def finite (l : Layout) (negative : Bool) (m : Nat) (q : Int) : String :=
  let sign := if negative then ['-'] else []
  let magnitude := if m = 0 then ['0', '.', '0'] else l.decimal (shortest l.tie m q)
  String.ofList (sign ++ magnitude)

end Layout

end BinarySolver.Numeral
