/-
# BinarySolver.Identifier -- the identifier in a type signature, and its emitted name

A signature holds at most one identifier that matters: the first.  What stands
before it are shape markers, what stands behind it belongs to its arguments.  An
emitted name is scoped by the file that declares it, if there is one.
-/
import BinarySolver.Text.Checksum
import BinarySolver.Text.Hex
import BinarySolver.Unicode.Alphabetic
import BinarySolver.Unicode.Numeric

namespace BinarySolver

set_option autoImplicit false

namespace Identifier

def isStart (c : Char) : Bool := c == '_' || Unicode.isAlphabetic c

def isPart (c : Char) : Bool := isStart c || Unicode.isNumeric c

/-- A text cut around its first identifier. -/
structure Split where
  markers : String
  ident : String
  rest : String
deriving DecidableEq

/-- The markers reach up to the first start of an identifier, the identifier as far
as its parts go. -/
def split (text : String) : Split :=
  let tail := text.toList.dropWhile fun c => !isStart c
  { markers := String.ofList (text.toList.takeWhile fun c => !isStart c)
    ident := String.ofList (tail.takeWhile isPart)
    rest := String.ofList (tail.dropWhile isPart) }

/-- Cutting loses nothing. -/
theorem split_append (text : String) :
    (split text).markers ++ (split text).ident ++ (split text).rest = text := by
  apply String.toList_injective
  simp [split, List.append_assoc, List.takeWhile_append_dropWhile]

/-- The emitted name: an identifier of a file carries the checksum of its path. -/
def emitted (ident : String) : Option String → String
  | some path =>
    "_" ++ String.ofList (Text.hexPadded 8 (Text.checksum path).toNat) ++ "_" ++ ident
  | none => "JNID(" ++ ident ++ ")"

end Identifier

/-- How an identifier and the path of its file become an emitted name. -/
abbrev Escaper := String → Option String → String

end BinarySolver
