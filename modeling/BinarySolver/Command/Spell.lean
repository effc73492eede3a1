/-
# BinarySolver.Command.Spell -- spelling a type given as a text
-/
import BinarySolver.Spelling
import BinarySolver.TypeExpr

namespace BinarySolver.Command

set_option autoImplicit false

/-- A type, and the templates that are not to have their usual names. -/
structure SpellRequest where
  type : String
  array : Option String
  slice : Option String
  map : Option String
  tuple : Option String
  func : Option String

namespace SpellRequest

def templates (r : SpellRequest) : Templates :=
  let usual := Templates.standard
  { array := r.array.getD usual.array
    slice := r.slice.getD usual.slice
    map := r.map.getD usual.map
    tuple := r.tuple.getD usual.tuple
    func := r.func.getD usual.func }

/-- The type as it was read, and its spelling. -/
def run (r : SpellRequest) : Except OperandError (Descriptor × String) :=
  (TypeExpr.read r.type.toList).map fun type =>
    (type, (Speller.ofConfig { Config.standard with templates := r.templates }).spell type)

end SpellRequest

end BinarySolver.Command
