/-
# BinarySolver.Value -- operands

A value has a type and, if it is known when the program is compiled, a constant.
The nil literal is known as well, and has none.
-/
import BinarySolver.Initializer

namespace BinarySolver

set_option autoImplicit false

structure Value where
  type : Descriptor
  constant : Option Constant
  isConst : Bool
  initializer : Option Initializer
  span : Span

namespace Value

/-- A value known only when the program runs. -/
def runtime (type : Descriptor) : Value :=
  { type, constant := none, isConst := false, initializer := none, span := .detached }

def ofConstant (type : Descriptor) (c : Constant) : Value :=
  { runtime type with constant := some c, isConst := true }

def int (category : Category) (x : Int64) : Value := ofConstant (.scalar category) (.int x)

def uint (category : Category) (x : UInt64) : Value := ofConstant (.scalar category) (.uint x)

def float (category : Category) (x : Float) : Value := ofConstant (.scalar category) (.float x)

def string (text : String) : Value := ofConstant (.scalar .str) (.str text)

def boolean (b : Bool) : Value := ofConstant .bool (.bool b)

def nil : Value := { runtime .nil with isConst := true }

def withSpan (v : Value) (span : Span) : Value := { v with span }

end Value

end BinarySolver
