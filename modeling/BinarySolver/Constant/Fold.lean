/-
# BinarySolver.Constant.Fold -- an operator applied to two constants

The left constant decides the representation and the right one is forced into it.
Integers wrap, their quotient is a float, and they shift as unsigned numbers unless
they are negative.
-/
import BinarySolver.Constant
import BinarySolver.Operator

namespace BinarySolver

set_option autoImplicit false

/-- What comes of folding. -/
inductive Folding where
  | value (c : Constant)
  /-- The operator has no meaning on these constants. -/
  | undefined
  | zeroDivisor
deriving DecidableEq

namespace Folding

def ofOption : Option Constant → Folding
  | some c => value c
  | none => undefined

end Folding

namespace Constant

/-- The outcome of a comparison operator. -/
def compare {α : Type} [BEq α] [LT α] [LE α] [DecidableLT α] [DecidableLE α] (op : BinaryOp)
    (l r : α) : Option Bool :=
  match op with
  | .eq => some (l == r)
  | .ne => some (!(l == r))
  | .lt => some (decide (l < r))
  | .gt => some (decide (r < l))
  | .le => some (decide (l ≤ r))
  | .ge => some (decide (r ≤ l))
  | _ => none

def foldBool (op : BinaryOp) (l r : Bool) : Option Constant :=
  match op with
  | .eq => some (bool (l == r))
  | .ne => some (bool (l != r))
  | .and => some (bool (l && r))
  | .or => some (bool (l || r))
  | _ => none

def foldText (op : BinaryOp) (l r : String) : Option Constant :=
  match op with
  | .add => some (str (l ++ r))
  | .eq => some (bool (l == r))
  | .ne => some (bool (l != r))
  | _ => none

def foldFloat (op : BinaryOp) (l r : Float) : Folding :=
  match op with
  | .add => .value (float (l + r))
  | .sub => .value (float (l - r))
  | .mul => .value (float (l * r))
  | .div => if r == Float.ofBits 0 then .zeroDivisor else .value (float (l / r))
  | op => .ofOption ((compare op l r).map bool)

/-- All bits are shifted out by an amount of 64 or more. -/
def shiftLeft (l amount : UInt64) : UInt64 := if 64 ≤ amount then 0 else l <<< amount

def shiftRight (l amount : UInt64) : UInt64 := if 64 ≤ amount then 0 else l >>> amount

def shiftLeftSigned (l : Int64) (amount : UInt64) : Int64 :=
  if 64 ≤ amount then 0 else l <<< amount.toInt64

/-- The sign fills the bits that are shifted in. -/
def shiftRightSigned (l : Int64) (amount : UInt64) : Int64 :=
  if 64 ≤ amount then l >>> 63 else l >>> amount.toInt64

/-- `amount` is the right operand as a shift amount. -/
def foldInt (op : BinaryOp) (l r : Int64) (amount : UInt64) : Folding :=
  match op with
  | .add => .value (int (l + r))
  | .sub => .value (int (l - r))
  | .mul => .value (int (l * r))
  | .div =>
    if r = 0 then .zeroDivisor
    else .value (float (Float.ofInt l.toInt / Float.ofInt r.toInt))
  | .rem => if r = 0 then .zeroDivisor else .value (int (l % r))
  | .bitAnd => .value (int (l &&& r))
  | .bitOr => .value (int (l ||| r))
  | .bitXor => .value (int (l ^^^ r))
  | .shl =>
    if 0 ≤ l then .value (uint (shiftLeft l.toUInt64 amount))
    else .value (int (shiftLeftSigned l amount))
  | .shr =>
    if 0 ≤ l then .value (uint (shiftRight l.toUInt64 amount))
    else .value (int (shiftRightSigned l amount))
  | op => .ofOption ((compare op l r).map bool)

def foldUInt (op : BinaryOp) (l r : UInt64) : Folding :=
  match op with
  | .add => .value (uint (l + r))
  | .sub => .value (uint (l - r))
  | .mul => .value (uint (l * r))
  | .div =>
    if r = 0 then .zeroDivisor
    else .value (float (Float.ofNat l.toNat / Float.ofNat r.toNat))
  | .rem => if r = 0 then .zeroDivisor else .value (uint (l % r))
  | .bitAnd => .value (uint (l &&& r))
  | .bitOr => .value (uint (l ||| r))
  | .bitXor => .value (uint (l ^^^ r))
  | .shl => .value (uint (shiftLeft l r))
  | .shr => .value (uint (shiftRight l r))
  | op => .ofOption ((compare op l r).map bool)

/-- Applies an operator to two constants; a right constant that cannot be forced
into the representation of the left one leaves the result undefined. -/
def fold (op : BinaryOp) (left right : Constant) : Folding :=
  match left with
  | bool l => .ofOption (right.asBool?.bind fun r => foldBool op l r)
  | str l => .ofOption (right.asText?.bind fun r => foldText op l r)
  | float l =>
    match right.asFloat? with
    | some r => foldFloat op l r
    | none => .undefined
  | int l =>
    match right.asInt64?, right.asUInt64? with
    | some r, some amount => foldInt op l r amount
    | _, _ => .undefined
  | uint l =>
    match right.asUInt64? with
    | some r => foldUInt op l r
    | none => .undefined

end Constant

end BinarySolver
