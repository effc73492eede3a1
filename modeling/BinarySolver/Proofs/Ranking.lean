/-
# BinarySolver.Proofs.Ranking -- which of two types is the wider

Numbers are signed integers, unsigned integers or floats.  Of one kind the type of more bits
is the wider, a float is wider than any integer, and no other types can be compared
(`IsWider`).  `Solver.wider` is the wider of the types of two operands, and the left one
where neither is.
-/
import BinarySolver.Proofs.Kind
import BinarySolver.Proofs.Range

namespace BinarySolver

set_option autoImplicit false

namespace Category

variable {word : WordSize} {c d : Category}

/-- Both are signed integers, unsigned integers or floats. -/
def SameKind (c d : Category) : Prop :=
  (c.isSignedInteger = true ∧ d.isSignedInteger = true) ∨
    (c.isUnsignedInteger = true ∧ d.isUnsignedInteger = true) ∨
      (c.isFloat = true ∧ d.isFloat = true)

/-- A float is wider than an integer, and of one kind what has more bits. -/
def IsWider (word : WordSize) (c d : Category) : Prop :=
  (c.isFloat = true ∧ d.isInteger = true) ∨
    (c.SameKind d ∧ ∃ m ∈ c.bitWidth? word, ∃ n ∈ d.bitWidth? word, n < m)

instance : Decidable (c.SameKind d) := inferInstanceAs (Decidable (_ ∨ _))

instance : Decidable (c.IsWider word d) := inferInstanceAs (Decidable (_ ∨ _))

/-- Ranks are those of the widths. -/
theorem outranks_iff : c.outranks word d = true ↔ c.IsWider word d := by
  have table : ∀ c ∈ all, ∀ d ∈ all, (c.outranks word d = true ↔ c.IsWider word d) := by
    cases word <;> decide +kernel
  exact table c (mem_all c) d (mem_all d)

/-- An integer is wider than integers of its own signedness only. -/
theorem isSignedInteger_of_isWider (wider : c.IsWider word d) (whole : c.isInteger = true) :
    c.isSignedInteger = d.isSignedInteger := by
  have noFloat := Bool.eq_false_iff.1 (isFloat_of_isInteger whole)
  obtain ⟨float, -⟩ | ⟨⟨left, right⟩ | ⟨left, right⟩ | ⟨float, -⟩, -⟩ := wider
  · exact absurd float noFloat
  · rw [left, right]
  · rw [isSignedInteger_of_isUnsignedInteger left, isSignedInteger_of_isUnsignedInteger right]
  · exact absurd float noFloat

end Category

namespace Solver

variable {s : Solver} {o : Operation}

theorem wider_eq : s.wider o =
    if o.right.type.category.IsWider s.config.wordSize o.left.type.category then o.right.type
    else o.left.type := by
  simp only [wider, Category.outranks_iff]

/-- The wider type is that of an operand. -/
theorem wider_of {P : Descriptor → Prop} (left : P o.left.type) (right : P o.right.type) :
    P (s.wider o) := by
  unfold wider
  split
  · exact right
  · exact left

end Solver

end BinarySolver
