/-
# BinarySolver.Numeral.Reading -- numbers read from text

A number is an optional sign and ASCII digits; nothing may stand around it.  A
float may have a point and an exponent, and may be named.  What is read is exact
up to the one rounding that a float needs.
-/
import BinarySolver.Numeral.Word

namespace BinarySolver.Numeral

set_option autoImplicit false

def isDigit (c : Char) : Bool := '0' ≤ c && c ≤ '9'

/-- The value of a run of digits. -/
def digitsValue (cs : List Char) : Nat :=
  cs.foldl (fun n c => 10 * n + (c.toNat - '0'.toNat)) 0

/-- One digit or more, and nothing else. -/
def readDigits? (cs : List Char) : Option Nat :=
  if !cs.isEmpty && cs.all isDigit then some (digitsValue cs) else none

/-- A sign in front, if there is one; true for minus. -/
def readSign : List Char → Bool × List Char
  | '-' :: cs => (true, cs)
  | '+' :: cs => (false, cs)
  | cs => (false, cs)

def readInt? (cs : List Char) : Option Int :=
  let (negative, rest) := readSign cs
  (readDigits? rest).map fun n => if negative then -(n : Int) else n

/-- A signed integer of 64 bits. -/
def readInt64? (cs : List Char) : Option Int64 := (readInt? cs).bind toInt64?

/-- An unsigned integer of 64 bits, which takes no minus sign even before zero. -/
def readUInt64? (cs : List Char) : Option UInt64 :=
  let (negative, rest) := readSign cs
  if negative then none else (readDigits? rest).bind fun n => toUInt64? n

/-- `digits * 10 ^ exponent`, rounded to the nearest float.  Beyond the range of
floats the exponent alone decides. -/
def roundDecimal (digits : Nat) (exponent : Int) : Float :=
  let leading := exponent + (Nat.toDigits 10 digits).length
  if digits = 0 ∨ leading < -330 then Float.ofBits 0
  else if 330 < leading then Float.ofBits 0x7FF0000000000000
  else Float.ofScientific digits (decide (exponent < 0)) exponent.natAbs

/-- The exponent at the end of a float: none at all, or `e` and a signed number. -/
def readExponent? : List Char → Option Int
  | [] => some 0
  | c :: cs => if c = 'e' ∨ c = 'E' then readInt? cs else none

/-- Digits with at most one point among, before or behind them, then an exponent. -/
def readMagnitude? (cs : List Char) : Option Float :=
  let whole := cs.takeWhile isDigit
  let afterWhole := cs.dropWhile isDigit
  let fraction :=
    match afterWhole with
    | '.' :: rest => rest.takeWhile isDigit
    | _ => []
  let afterFraction :=
    match afterWhole with
    | '.' :: rest => rest.dropWhile isDigit
    | rest => rest
  if whole.isEmpty && fraction.isEmpty then none
  else
    (readExponent? afterFraction).map fun e =>
      roundDecimal (digitsValue (whole ++ fraction)) (e - fraction.length)

/-- A float: a sign, then a magnitude or, in any case of letters, `inf`, `infinity` or `nan`. -/
def readFloat? (cs : List Char) : Option Float :=
  let (negative, rest) := readSign cs
  let magnitude? :=
    match String.ofList (rest.map Char.toLower) with
    | "inf" | "infinity" => some (Float.ofBits 0x7FF0000000000000)
    | "nan" => some (Float.ofBits 0x7FF8000000000000)
    | _ => readMagnitude? rest
  magnitude?.map fun x => if negative then -x else x

end BinarySolver.Numeral
