/-
# BinarySolver.Initializer -- constants as the emitted C++ program writes them

A truth value is written bare, every other constant as an initialiser of the class
of its type.  The text of a string constant is a narrow string literal: quotes,
backslashes and ASCII controls are escaped, everything else stands for itself.
-/
import BinarySolver.Constant
import BinarySolver.Descriptor
import BinarySolver.Text.Hex

namespace BinarySolver

set_option autoImplicit false

/-- What is emitted for a value. -/
structure Initializer where
  text : String
deriving DecidableEq

namespace Initializer

def isControl (c : Char) : Bool := c.toNat < 32 || c.toNat == 127

/-- One character of a string literal. -/
def literalChar (c : Char) : List Char :=
  if c = '"' then ['\\', '"']
  else if c = '\\' then ['\\', '\\']
  else if c = '\n' then ['\\', 'n']
  else if c = '\r' then ['\\', 'r']
  else if c = '\t' then ['\\', 't']
  else if isControl c then ['\\', 'x'] ++ Text.hexPadded 2 c.toNat
  else [c]

/-- What stands between the quotes of a string literal. -/
def literalBody (text : List Char) : List Char := text.flatMap literalChar

/-- A number in the braces of an initialiser. -/
def braced (spelling number : String) : String := spelling ++ "\x7b" ++ number ++ "\x7d"

/-- The initialiser of a constant as a value of a type. -/
def ofConstant (c : Constant) (type : Descriptor) : Initializer :=
  let spelling := type.category.spelling
  match c with
  | .bool b => ⟨Constant.boolText b⟩
  | .str text =>
    ⟨spelling ++ "(\"" ++ String.ofList (literalBody text.toList) ++ "\")"⟩
  | .float x => ⟨braced spelling (Constant.floatText x)⟩
  | .int x => ⟨braced spelling (Constant.intText x.toInt)⟩
  | .uint x => ⟨braced spelling (Constant.intText x.toNat)⟩

end Initializer

end BinarySolver
