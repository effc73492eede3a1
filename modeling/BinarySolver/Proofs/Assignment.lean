/-
# BinarySolver.Proofs.Assignment -- operands that give a type a value

    operand := type '=' value

Blanks are taken from both ends of the operand before it is divided at its first equals
sign, and from both ends of the type when it is read.  So blanks do not matter around the
type and behind the value, and those in front of the value belong to it: `read_assigned`.
-/
import BinarySolver.Operand
import BinarySolver.Proofs.Reading

namespace BinarySolver

set_option autoImplicit false

namespace TypeExpr

/-- The name of a scalar category is read as that category. -/
theorem read_name {c : Category} (scalar : c.IsScalar) : read c.name.toList = .ok (.scalar c) := by
  have identifier : IsIdentifier c.name.toList := by cases c <;> decide
  have unreserved : c.name ∉ reservedNames := by
    revert scalar
    cases c <;> decide
  let n : TypeName := ⟨c.name, identifier, unreserved⟩
  rw [(Body.name n).derives.read_eq, TypeTree.descriptor,
    descriptor_of_gives (n := n) (.scalar c rfl scalar)]

end TypeExpr

namespace Operand

theorem cutAt?_append_cons {c : Char} {before : List Char} (first : c ∉ before)
    (rest : List Char) : cutAt? c (before ++ c :: rest) = some (before, rest) := by
  have others : ∀ d ∈ before, (d != c) = true := by
    intro d member
    rw [bne_iff_ne]
    rintro rfl
    exact first member
  rw [cutAt?, List.dropWhile_append_of_pos others, List.takeWhile_append_of_pos others]
  simp

/-- A type before the first equals sign of an operand is read as it is read alone, and what
is behind the sign is its constant, but for blanks at the end. -/
theorem read_assigned {before : List Char} (first : '=' ∉ before) (value : List Char) :
    read (before ++ '=' :: value) =
      (TypeExpr.read before).bind fun type =>
        (readConstant type (Text.trimEnd value)).map (.ofConstant type) := by
  have inside : '=' ∉ Text.trimStart before :=
    fun member => first ((List.dropWhile_sublist _).subset member)
  have other : Text.trimStart before ++ '=' :: Text.trimEnd value ≠ ['n', 'i', 'l'] := by
    intro same
    have member : '=' ∈ Text.trimStart before ++ '=' :: Text.trimEnd value := by simp
    rw [same] at member
    revert member
    decide
  have type : TypeExpr.read (Text.trimStart before) = TypeExpr.read before :=
    TypeExpr.read_congr (Text.trim_trimStart before)
  simp only [read, Text.trim_append_cons (c := '=') (by decide), if_neg other,
    cutAt?_append_cons inside, type]
  cases TypeExpr.read before <;> rfl

end Operand

end BinarySolver
