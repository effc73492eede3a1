/-
# BinarySolver.Operand -- operands read from text

An operand is `nil`, a type, or a type and a constant with an equals sign between
them.  Only the first equals sign divides, and the constant is read by the category
of the type; text is taken as it stands.
-/
import BinarySolver.Numeral.Reading
import BinarySolver.TypeExpr
import BinarySolver.Value

namespace BinarySolver.Operand

set_option autoImplicit false

def readBool? (text : List Char) : Option Bool :=
  match String.ofList text with
  | "true" => some true
  | "false" => some false
  | _ => none

/-- A constant of a plain type. -/
def readConstant (type : Descriptor) (text : List Char) : Except OperandError Constant :=
  let read (c : Option Constant) : Except OperandError Constant :=
    match c with
    | some c => .ok c
    | none => .error (.invalidValue type.signature (String.ofList text))
  let category := type.category
  if !type.isPlain then .error (.notConstant type.signature)
  else if category = .bool then read ((readBool? text).map .bool)
  else if category = .str then .ok (.str (String.ofList text))
  else if category.isFloat then read ((Numeral.readFloat? text).map .float)
  else if category.isUnsignedInteger then read ((Numeral.readUInt64? text).map .uint)
  else if category.isSignedInteger then read ((Numeral.readInt64? text).map .int)
  else .error (.notConstant type.signature)

/-- A text around the first of a character, if there is one. -/
def cutAt? (c : Char) (text : List Char) : Option (List Char × List Char) :=
  match text.dropWhile (· != c) with
  | _ :: rest => some (text.takeWhile (· != c), rest)
  | [] => none

def read (text : List Char) : Except OperandError Value :=
  let text := Text.trim text
  if text = ['n', 'i', 'l'] then .ok .nil
  else
    match cutAt? '=' text with
    | none => (TypeExpr.read text).map .runtime
    | some (typeText, constantText) =>
      match TypeExpr.read typeText with
      | .error e => .error e
      | .ok type => (readConstant type constantText).map (.ofConstant type)

end BinarySolver.Operand
