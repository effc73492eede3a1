/-
# BinarySolver.Operator -- the binary operators
-/
import BinarySolver.Source

namespace BinarySolver

set_option autoImplicit false

inductive BinaryOp where
  | add | sub | mul | div | rem
  | bitAnd | bitOr | bitXor
  | shl | shr
  | eq | ne | lt | gt | le | ge
  | and | or
deriving DecidableEq

/-- The text of no operator. -/
structure UnknownOperator where
  text : String
deriving DecidableEq

def UnknownOperator.message (e : UnknownOperator) : String :=
  "unknown binary operator `" ++ e.text ++ "`"

namespace BinaryOp

def all : List BinaryOp :=
  [add, sub, mul, div, rem, bitAnd, bitOr, bitXor, shl, shr, eq, ne, lt, gt, le, ge, and, or]

def symbol : BinaryOp → String
  | add => "+"
  | sub => "-"
  | mul => "*"
  | div => "/"
  | rem => "%"
  | bitAnd => "&"
  | bitOr => "|"
  | bitXor => "^"
  | shl => "<<"
  | shr => ">>"
  | eq => "=="
  | ne => "!="
  | lt => "<"
  | gt => ">"
  | le => "<="
  | ge => ">="
  | and => "&&"
  | or => "||"

def ofSymbol (text : String) : Except UnknownOperator BinaryOp :=
  match all.find? fun op => op.symbol == text with
  | some op => .ok op
  | none => .error ⟨text⟩

theorem ofSymbol_symbol (op : BinaryOp) : ofSymbol op.symbol = .ok op := by cases op <;> rfl

def isEquality : BinaryOp → Bool
  | eq | ne => true
  | _ => false

def isComparison : BinaryOp → Bool
  | eq | ne | lt | gt | le | ge => true
  | _ => false

def isLogical : BinaryOp → Bool
  | and | or => true
  | _ => false

def isShift : BinaryOp → Bool
  | shl | shr => true
  | _ => false

def isBitwise : BinaryOp → Bool
  | bitAnd | bitOr | bitXor => true
  | _ => false

/-- The remainder is not among the arithmetic operators: floats have none. -/
def isArithmetic : BinaryOp → Bool
  | add | sub | mul | div => true
  | _ => false

def yieldsBool (op : BinaryOp) : Bool := op.isComparison || op.isLogical

end BinaryOp

/-- An operator where it stands in a source. -/
structure Operator where
  op : BinaryOp
  span : Span
deriving DecidableEq

def Operator.detached (op : BinaryOp) : Operator := ⟨op, .detached⟩

end BinarySolver
