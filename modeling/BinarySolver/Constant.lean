/-
# BinarySolver.Constant -- values known when the program is compiled

A constant is a truth value, a text, or a number in one of three representations.
Numbers pass from one representation to another in two ways: by force, wrapping
integers and cutting floats, or exactly, which need not succeed.
-/
import BinarySolver.Category
import BinarySolver.Numeral.Layout
import BinarySolver.Numeral.Word
import BinarySolver.Text.Quoted
import BinarySolver.Width

namespace BinarySolver

set_option autoImplicit false

inductive Constant where
  | bool (b : Bool)
  | str (text : String)
  | float (x : Float)
  | int (x : Int64)
  | uint (x : UInt64)
deriving DecidableEq

namespace Constant

/-! ## By force -/

/-- The nearest float. -/
def asFloat? : Constant → Option Float
  | float x => some x
  | int x => some (Float.ofInt x.toInt)
  | uint x => some (Float.ofNat x.toNat)
  | bool _ | str _ => none

/-- Unsigned values wrap, floats are cut to the nearest value in range. -/
def asInt64? : Constant → Option Int64
  | float x =>
    some (Int64.ofInt ((Numeral.Binary.ofFloat x).clamp Numeral.minInt64 Numeral.maxInt64))
  | int x => some x
  | uint x => some x.toInt64
  | bool _ | str _ => none

/-- Negative values wrap, floats are cut to the nearest value in range. -/
def asUInt64? : Constant → Option UInt64
  | float x => some (UInt64.ofNat ((Numeral.Binary.ofFloat x).clamp 0 Numeral.maxUInt64).toNat)
  | int x => some x.toUInt64
  | uint x => some x
  | bool _ | str _ => none

def asBool? : Constant → Option Bool
  | bool b => some b
  | _ => none

def asText? : Constant → Option String
  | str text => some text
  | _ => none

/-! ## Exactly -/

/-- The whole number that a numeric constant stands for. -/
def toInt? : Constant → Option Int
  | float x => (Numeral.Binary.ofFloat x).toInt?
  | int x => some x.toInt
  | uint x => some x.toNat
  | bool _ | str _ => none

/-- The value as a signed integer, if it is one. -/
def exactInt64? (c : Constant) : Option Int64 := c.toInt?.bind Numeral.toInt64?

/-- The value as an unsigned integer, if it is one. -/
def exactUInt64? (c : Constant) : Option UInt64 := c.toInt?.bind Numeral.toUInt64?

/-! ## Categories -/

/-- Zero in the representation of a category; what is no number counts as signed. -/
def zero (category : Category) : Constant :=
  if category.isFloat then float (Float.ofBits 0)
  else if category.isUnsignedInteger then uint 0
  else int 0

/-- The narrowest category of its signedness that holds a number. -/
def minimalCategory? : Constant → Option Category
  | int x => some (Width.minimalSigned x)
  | uint x => some (Width.minimalUnsigned x)
  | float x => some (Width.minimalFloat x)
  | bool _ | str _ => none

/-! ## Text -/

/-- Floats are written with the fewest digits and always with a point or an
exponent, positionally from `1e-4` up to below `1e16`. -/
def floatLayout : Numeral.Layout :=
  { plainFrom := -4, plainBelow := 16, plusSign := false, tie := .up }

def floatText (x : Float) : String :=
  match Numeral.Binary.ofFloat x with
  | .notANumber => "NaN"
  | .infinite negative => if negative then "-inf" else "inf"
  | .finite negative m q => floatLayout.finite negative m q

def intText (n : Int) : String :=
  String.ofList ((if n < 0 then ['-'] else []) ++ Numeral.decimalText n.natAbs)

def boolText (b : Bool) : String := if b then "true" else "false"

/-- The text in which a constant is shown to a reader. -/
def toText : Constant → String
  | bool b => boolText b
  | str text => Text.quoted text
  | float x => floatText x
  | int x => intText x.toInt
  | uint x => intText x.toNat

end Constant

end BinarySolver
