/-
# BinarySolver.Numeral.Word -- whole numbers in words of 64 bits
-/

namespace BinarySolver.Numeral

set_option autoImplicit false

/-- The least signed word. -/
def minInt64 : Int := -0x8000000000000000

/-- The greatest signed word. -/
def maxInt64 : Int := 0x7FFFFFFFFFFFFFFF

/-- The greatest unsigned word. -/
def maxUInt64 : Int := 0xFFFFFFFFFFFFFFFF

/-- The signed word of a number that is one. -/
def toInt64? (n : Int) : Option Int64 :=
  if minInt64 ≤ n ∧ n ≤ maxInt64 then some (Int64.ofInt n) else none

/-- The unsigned word of a number that is one. -/
def toUInt64? (n : Int) : Option UInt64 :=
  if 0 ≤ n ∧ n ≤ maxUInt64 then some (UInt64.ofNat n.toNat) else none

end BinarySolver.Numeral
