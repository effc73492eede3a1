/-
# BinarySolver.Numeral.Binary -- a float as a whole number times a power of two

The bits of a float say exactly which number it is.  Whatever the library asks of
a float beyond arithmetic and order (is it a whole number, which one, does it fit
a narrower format, which decimals read back as it) is asked of that number, in
exact arithmetic.
-/

namespace BinarySolver.Numeral

set_option autoImplicit false

/-- The number that a float stands for: `finite s m q` is `m * 2 ^ q`, below zero iff `s`. -/
inductive Binary where
  | notANumber
  | infinite (negative : Bool)
  | finite (negative : Bool) (m : Nat) (q : Int)
deriving DecidableEq

namespace Binary

/-- One bit of sign, eleven of exponent, fifty-two of fraction. -/
def ofFloat (x : Float) : Binary :=
  let bits := x.toBits.toNat
  let negative := decide (0x8000000000000000 ≤ bits)
  let exponent : Nat := bits / 0x10000000000000 % 0x800
  let fraction : Nat := bits % 0x10000000000000
  if exponent = 2047 then
    if fraction = 0 then infinite negative else notANumber
  else if exponent = 0 then finite negative fraction (-1074)
  else finite negative (0x10000000000000 + fraction) ((exponent : Int) - 1075)

/-- `m * 2 ^ q` without what stands behind its point. -/
def wholePart (m : Nat) (q : Int) : Nat :=
  m * Nat.pow 2 q.toNat / Nat.pow 2 (-q).toNat

/-- `m * 2 ^ q` has nothing behind its point. -/
def isWhole (m : Nat) (q : Int) : Bool :=
  m * Nat.pow 2 q.toNat % Nat.pow 2 (-q).toNat == 0

def signed (negative : Bool) (n : Nat) : Int :=
  if negative then -(n : Int) else n

/-- The number, if it is a whole one. -/
def toInt? : Binary → Option Int
  | finite negative m q =>
    if isWhole m q then some (signed negative (wholePart m q)) else none
  | _ => none

/-- The nearest number toward zero between two bounds; what is no number counts as zero. -/
def clamp (lo hi : Int) : Binary → Int
  | notANumber => 0
  | infinite negative => if negative then lo else hi
  | finite negative m q => max lo (min hi (signed negative (wholePart m q)))

/-- The exponent of the leading bit of `m * 2 ^ q`. -/
def leading (m : Nat) (q : Int) : Int := q + (Nat.log2 m : Int)

/-- A float of half the width holds the number as well: it is below `2 ^ 128`, and
no bit of it stands more than 23 places behind the first or below `2 ^ -149`. -/
def fitsSingle : Binary → Bool
  | finite _ m q =>
    m == 0 ||
      (decide (leading m q < 128) && isWhole m (q - max (leading m q - 23) (-149)))
  | _ => false

end Binary

end BinarySolver.Numeral
