/-
# BinarySolver.Config -- the machine word and the names of the emitted templates
-/
import BinarySolver.Category

namespace BinarySolver

set_option autoImplicit false

/-- The class templates of the emitted program that stand for shaped types. -/
structure Templates where
  array : String
  slice : String
  map : String
  tuple : String
  func : String
deriving DecidableEq

def Templates.standard : Templates :=
  { array := "array", slice := "slice", map := "map", tuple := "std::tuple", func := "func" }

structure Config where
  wordSize : WordSize
  templates : Templates
deriving DecidableEq

def Config.standard : Config := { wordSize := .w64, templates := .standard }

end BinarySolver
