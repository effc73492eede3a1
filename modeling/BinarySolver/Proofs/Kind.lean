/-
# BinarySolver.Proofs.Kind -- plain types and the rules they select

A plain type has neither a marker nor a bracket in front, so every question that
the solver asks of it is a question about its category.  `select_numbers` says
which rule two plain numbers select, which is where every fold of numbers begins.
-/
import BinarySolver.Solver

namespace BinarySolver

set_option autoImplicit false

theorem Category.isFloat_of_isInteger {c : Category} (whole : c.isInteger = true) :
    c.isFloat = false := by
  cases c <;> first | rfl | cases whole

namespace Descriptor

variable {d : Descriptor} {c : Category}

/-! ## Plain types -/

theorem startsWith_star_of_isPlain (plain : d.isPlain = true) : d.startsWith '*' = false := by
  simp only [isPlain, Bool.and_eq_true, Bool.not_eq_true'] at plain
  exact plain.1.2

theorem startsWith_bracket_of_isPlain (plain : d.isPlain = true) : d.startsWith '[' = false := by
  simp only [isPlain, Bool.and_eq_true, Bool.not_eq_true'] at plain
  exact plain.2

/-- A signature behind a marker that opens with a bracket opens with a bracket. -/
theorem startsWith_of_isPrefixOf {x : Char} {xs : List Char}
    (marked : (x :: xs).isPrefixOf d.signature.toList = true) : d.startsWith x = true := by
  obtain ⟨rest, same⟩ := List.isPrefixOf_iff_prefix.1 marked
  simp [startsWith, ← same]

theorem isArray_of_startsWith (bare : d.startsWith '[' = false) : d.isArray = false := by
  refine Bool.eq_false_iff.2 fun array => ?_
  rw [startsWith_of_isPrefixOf array] at bare
  cases bare

theorem isSlice_of_startsWith (bare : d.startsWith '[' = false) : d.isSlice = false := by
  refine Bool.eq_false_iff.2 fun slice => ?_
  rw [startsWith_of_isPrefixOf slice] at bare
  cases bare

theorem isA_of_isPlain (plain : d.isPlain = true) (c : Category) :
    d.isA c = (d.category == c) := by
  rw [isA, plain, Bool.and_true]

theorem isA_iff : d.isA c = true ↔ d.category = c ∧ d.isPlain = true := by
  rw [isA, Bool.and_eq_true, beq_iff_eq]

/-- A type is of one plain kind. -/
theorem isA_of_isA {k : Category} (kind : d.isA c = true) (other : c ≠ k) : d.isA k = false := by
  obtain ⟨category, plain⟩ := isA_iff.1 kind
  rw [isA_of_isPlain plain, category, beq_eq_false_iff_ne]
  exact other

theorem isPointer_of_isPlain (plain : d.isPlain = true) :
    d.isPointer = (d.category == .voidptr) := by
  rw [isPointer, startsWith_star_of_isPlain plain, Bool.false_or, isVoidptr, isA_of_isPlain plain]

theorem isPlain_scalar (c : Category) : (scalar c).isPlain = true := by
  cases c <;> decide

theorem isA_scalar (c : Category) : (scalar c).isA c = true :=
  isA_iff.2 ⟨rfl, isPlain_scalar c⟩

/-! ## Numbers -/

theorem isNumeric_iff : d.isNumeric = true ↔ d.isPlain = true ∧ d.category.isNumeric = true := by
  rw [isNumeric, Bool.and_eq_true]

theorem isInteger_iff : d.isInteger = true ↔ d.isPlain = true ∧ d.category.isInteger = true := by
  rw [isInteger, Bool.and_eq_true]

theorem isInteger_eq_or : d.isInteger = (d.isSignedInteger || d.isUnsignedInteger) := by
  simp only [isInteger, isSignedInteger, isUnsignedInteger, Category.isInteger,
    Bool.and_or_distrib_left]

theorem isNumeric_eq_or : d.isNumeric = (d.isInteger || d.isFloat) := by
  simp only [isNumeric, isInteger, isFloat, Category.isNumeric, Bool.and_or_distrib_left]

theorem isNumeric_of_isInteger (whole : d.isInteger = true) : d.isNumeric = true := by
  rw [isNumeric_eq_or, whole, Bool.true_or]

theorem isFloat_of_isInteger (whole : d.isInteger = true) : d.isFloat = false := by
  rw [isFloat, Category.isFloat_of_isInteger (isInteger_iff.1 whole).2, Bool.and_false]

theorem isSignedNumeric_eq_or : d.isSignedNumeric = (d.isSignedInteger || d.isFloat) := by
  simp only [isSignedNumeric, isSignedInteger, isFloat, Category.isSignedNumeric,
    Bool.and_or_distrib_left]

theorem isNumeric_of_isFloat (float : d.isFloat = true) : d.isNumeric = true := by
  rw [isNumeric_eq_or, float, Bool.or_true]

theorem isNumeric_of_isUnsignedInteger (unsigned : d.isUnsignedInteger = true) :
    d.isNumeric = true := by
  rw [isNumeric_eq_or, isInteger_eq_or, unsigned, Bool.or_true, Bool.true_or]

theorem isNumeric_of_isSignedNumeric (signed : d.isSignedNumeric = true) :
    d.isNumeric = true := by
  rw [isSignedNumeric_eq_or, Bool.or_eq_true] at signed
  rw [isNumeric_eq_or, isInteger_eq_or, Bool.or_assoc, Bool.or_eq_true, Bool.or_eq_true]
  rcases signed with signed | float
  · exact .inl signed
  · exact .inr (.inr float)

/-- A number is of no kind that is told by a category of something else. -/
theorem isA_of_isNumeric (number : d.isNumeric = true) (other : c.isNumeric = false) :
    d.isA c = false := by
  refine Bool.eq_false_iff.2 fun kind => ?_
  rw [isNumeric_iff, (isA_iff.1 kind).1, other] at number
  cases number.2

theorem isPointer_of_isNumeric (number : d.isNumeric = true) : d.isPointer = false := by
  have plain := (isNumeric_iff.1 number).1
  rw [isPointer_of_isPlain plain, ← isA_of_isPlain plain, isA_of_isNumeric number rfl]

theorem isNumeric_scalar (c : Category) : (scalar c).isNumeric = c.isNumeric := by
  rw [isNumeric, isPlain_scalar, Bool.true_and]
  rfl

theorem isInteger_scalar (c : Category) : (scalar c).isInteger = c.isInteger := by
  rw [isInteger, isPlain_scalar, Bool.true_and]
  rfl

theorem isSignedInteger_scalar (c : Category) :
    (scalar c).isSignedInteger = c.isSignedInteger := by
  rw [isSignedInteger, isPlain_scalar, Bool.true_and]
  rfl

theorem isUnsignedInteger_scalar (c : Category) :
    (scalar c).isUnsignedInteger = c.isUnsignedInteger := by
  rw [isUnsignedInteger, isPlain_scalar, Bool.true_and]
  rfl

theorem isFloat_scalar (c : Category) : (scalar c).isFloat = c.isFloat := by
  rw [isFloat, isPlain_scalar, Bool.true_and]
  rfl

/-! ## Pointers -/

/-- A pointer is of no plain kind but `voidptr`. -/
theorem isA_of_isPointer {c : Category} (pointer : d.isPointer = true) (other : c ≠ .voidptr) :
    d.isA c = false := by
  refine Bool.eq_false_iff.2 fun kind => other ?_
  obtain ⟨category, plain⟩ := isA_iff.1 kind
  rw [isPointer_of_isPlain plain, category, beq_iff_eq] at pointer
  exact pointer

theorem startsWith_bracket_of_isPointer (pointer : d.isPointer = true) :
    d.startsWith '[' = false := by
  rcases Bool.or_eq_true_iff.1 pointer with star | voidptr
  · unfold startsWith at star ⊢
    rw [beq_iff_eq] at star
    rw [star]
    rfl
  · exact startsWith_bracket_of_isPlain (isA_iff.1 voidptr).2

theorem isPointer_of_isNil (nil : d.isNil = true) : d.isPointer = false := by
  obtain ⟨category, plain⟩ := isA_iff.1 nil
  rw [isPointer_of_isPlain plain, category]
  rfl

theorem isInteger_of_isPointer (pointer : d.isPointer = true) : d.isInteger = false := by
  refine Bool.eq_false_iff.2 fun whole => ?_
  rw [isPointer_of_isNumeric (isNumeric_of_isInteger whole)] at pointer
  cases pointer

theorem isInteger_of_isNil (nil : d.isNil = true) : d.isInteger = false := by
  rw [isInteger, (isA_iff.1 nil).1]
  exact Bool.and_false _

end Descriptor

theorem Operation.either_eq_false {o : Operation} {p : Descriptor → Bool}
    (left : p o.left.type = false) (right : p o.right.type = false) : o.either p = false := by
  rw [either, left, right, Bool.or_self]

namespace Handler

/-- Two numbers select a rule for numbers: that for floats if either is one, else
that for unsigned integers if either is one. -/
theorem select_numbers {o : Operation} (logical : o.op.isLogical = false)
    (left : o.left.type.isNumeric = true) (right : o.right.type.isNumeric = true) :
    select o = some
      (if o.either Descriptor.isFloat then .float
        else if o.either Descriptor.isUnsignedInteger then .unsigned
        else .signed) := by
  have bareLeft := Descriptor.startsWith_bracket_of_isPlain (Descriptor.isNumeric_iff.1 left).1
  have bareRight := Descriptor.startsWith_bracket_of_isPlain (Descriptor.isNumeric_iff.1 right).1
  have others : ∀ c : Category, c.isNumeric = false → o.either (·.isA c) = false := by
    intro c other
    exact Operation.either_eq_false (Descriptor.isA_of_isNumeric left other)
      (Descriptor.isA_of_isNumeric right other)
  have functions : o.either Descriptor.isFunc = false := others .fn rfl
  have arrays : o.either Descriptor.isArray = false :=
    Operation.either_eq_false (Descriptor.isArray_of_startsWith bareLeft)
      (Descriptor.isArray_of_startsWith bareRight)
  have slices : o.either Descriptor.isSlice = false :=
    Operation.either_eq_false (Descriptor.isSlice_of_startsWith bareLeft)
      (Descriptor.isSlice_of_startsWith bareRight)
  have pointers : o.either Descriptor.isPointer = false :=
    Operation.either_eq_false (Descriptor.isPointer_of_isNumeric left)
      (Descriptor.isPointer_of_isNumeric right)
  have enums : o.either Descriptor.isEnum = false := others .enum rfl
  have structs : o.either Descriptor.isStruct = false := others .struct rfl
  have traits : o.either Descriptor.isTrait = false := others .trait rfl
  have nils : o.either Descriptor.isNil = false := others .nil rfl
  have anys : o.either Descriptor.isAny = false := others .any rfl
  have bools : o.either Descriptor.isBool = false := others .bool rfl
  have texts : o.either Descriptor.isStr = false := others .str rfl
  have numbers : (o.either Descriptor.isFloat || o.either Descriptor.isUnsignedInteger ||
      o.either Descriptor.isSignedNumeric) = true := by
    rw [Descriptor.isNumeric_eq_or, Descriptor.isInteger_eq_or] at left
    simp only [Operation.either, Descriptor.isSignedNumeric_eq_or, Bool.or_eq_true] at left ⊢
    rcases left with (signed | unsigned) | float
    · exact .inr (.inl (.inl signed))
    · exact .inl (.inr (.inl unsigned))
    · exact .inl (.inl (.inl float))
  simp only [select, logical, priority, List.find?_cons, functions, arrays, slices, pointers,
    enums, structs, traits, nils, anys, bools, texts]
  cases float : o.either Descriptor.isFloat
  · cases unsigned : o.either Descriptor.isUnsignedInteger
    · have signed : o.either Descriptor.isSignedNumeric = true := by
        simpa only [float, unsigned, Bool.false_or] using numbers
      simp [signed]
    · simp
  · simp

end Handler

end BinarySolver
