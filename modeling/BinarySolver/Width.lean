/-
# BinarySolver.Width -- the narrowest category that holds a value

A folded constant takes the narrowest category that holds its value exactly, and
a folded shift a category chosen by the shift amount alone.
-/
import BinarySolver.Category
import BinarySolver.Numeral.Binary

namespace BinarySolver.Width

set_option autoImplicit false

/-- The least of 8, 16, 32 and 64 bits that hold a signed value. -/
def ofSigned (x : Int64) : Nat :=
  if -0x80 ≤ x.toInt ∧ x.toInt < 0x80 then 8
  else if -0x8000 ≤ x.toInt ∧ x.toInt < 0x8000 then 16
  else if -0x80000000 ≤ x.toInt ∧ x.toInt < 0x80000000 then 32
  else 64

/-- The least of 8, 16, 32 and 64 bits that hold an unsigned value. -/
def ofUnsigned (x : UInt64) : Nat :=
  if x.toNat < 0x100 then 8
  else if x.toNat < 0x10000 then 16
  else if x.toNat < 0x100000000 then 32
  else 64

/-- A float takes 32 bits if they hold it exactly; an infinity or what is no number takes 64. -/
def ofFloat (x : Float) : Nat :=
  if (Numeral.Binary.ofFloat x).fitsSingle then 32 else 64

def minimalSigned (x : Int64) : Category :=
  match ofSigned x with
  | 8 => .i8
  | 16 => .i16
  | 32 => .i32
  | _ => .i64

def minimalUnsigned (x : UInt64) : Category :=
  match ofUnsigned x with
  | 8 => .u8
  | 16 => .u16
  | 32 => .u32
  | _ => .u64

def minimalFloat (x : Float) : Category :=
  match ofFloat x with
  | 32 => .f32
  | _ => .f64

/-- The category of a folded shift: the first of `i8`, `u8`, `i16`, ... that holds
one shifted by the amount, then the floats. -/
def ofShift (amount : UInt64) : Category :=
  let n := amount.toNat
  if n ≤ 6 then .i8
  else if n ≤ 7 then .u8
  else if n ≤ 14 then .i16
  else if n ≤ 15 then .u16
  else if n ≤ 30 then .i32
  else if n ≤ 31 then .u32
  else if n ≤ 62 then .i64
  else if n ≤ 63 then .u64
  else if n ≤ 127 then .f32
  else .f64

end BinarySolver.Width
