/-
# BinarySolver.Unicode.Ranges -- character properties as lists of ranges

A property of characters is a list of closed ranges of code points.  The tables of
this folder leave ASCII out: there each property is said in a rule of its own.
-/

namespace BinarySolver.Unicode

set_option autoImplicit false

/-- The code point lies in one of the ranges. -/
def inRanges (ranges : List (Nat × Nat)) (n : Nat) : Bool :=
  ranges.any fun r => r.1 ≤ n && n ≤ r.2

def isAscii (c : Char) : Bool := c.toNat < 128

end BinarySolver.Unicode
