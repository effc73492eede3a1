/-
# BinarySolver.Proofs.Signedness -- knowing integers does not change their sign

Where integers are known only when the program runs, the type of a result is the wider of
their types, and integers are compared within one signedness (`isSignedInteger_of_isWider`), so
it is of the signedness of the left operand.  Where they are known, the result is folded in the
representation of the left constant and typed by the category of that representation
(`fold_integral`), or a zero of the wider type stands in for it.  These are two ways to one
signedness: **`solve_signedness`**.
-/
import BinarySolver.Proofs.ShiftTyping
import BinarySolver.Proofs.ZeroDivisor

namespace BinarySolver

set_option autoImplicit false

namespace BinaryOp

/-- The operators that make an integer of two integers and do not shift. -/
def isIntegral : BinaryOp → Bool
  | add | sub | mul | rem | bitAnd | bitOr | bitXor => true
  | _ => false

variable {op : BinaryOp}

/-- But for the remainder these are the operators on words. -/
theorem eq_rem_or_toBinary_of_isIntegral (integral : op.isIntegral = true) :
    op = .rem ∨ ∃ w : WordOp, op = w.toBinary := by
  cases op with
  | rem => exact .inl rfl
  | add => exact .inr ⟨.add, rfl⟩
  | sub => exact .inr ⟨.sub, rfl⟩
  | mul => exact .inr ⟨.mul, rfl⟩
  | bitAnd => exact .inr ⟨.bitAnd, rfl⟩
  | bitOr => exact .inr ⟨.bitOr, rfl⟩
  | bitXor => exact .inr ⟨.bitXor, rfl⟩
  | _ => cases integral

theorem yieldsBool_of_isIntegral (integral : op.isIntegral = true) : op.yieldsBool = false := by
  cases op <;> first | rfl | cases integral

theorem isShift_of_isIntegral (integral : op.isIntegral = true) : op.isShift = false := by
  cases op <;> first | rfl | cases integral

end BinaryOp

/-! ## Types -/

namespace Descriptor

variable {d : Descriptor}

theorem isSignedInteger_of_isInteger (whole : d.isInteger = true) :
    d.isSignedInteger = d.category.isSignedInteger := by
  rw [isSignedInteger, (isInteger_iff.1 whole).1, Bool.true_and]

/-- An integer is of one signedness. -/
theorem isUnsignedInteger_category (whole : d.isInteger = true) :
    d.category.isUnsignedInteger = !d.category.isSignedInteger := by
  have number := (isInteger_iff.1 whole).2
  generalize d.category = c at number ⊢
  cases c <;> first | rfl | cases number

end Descriptor

namespace Solver

variable {s : Solver} {o : Operation}

/-- The wider of two integers has the signedness of the left one. -/
theorem isSignedInteger_wider (left : o.left.type.isInteger = true)
    (right : o.right.type.isInteger = true) :
    (s.wider o).isInteger = true ∧
      (s.wider o).category.isSignedInteger = o.left.type.category.isSignedInteger := by
  rw [wider_eq]
  split
  · rename_i above
    exact ⟨right, Category.isSignedInteger_of_isWider above (Descriptor.isInteger_iff.1 right).2⟩
  · exact ⟨left, rfl⟩

end Solver

/-! ## Constants -/

namespace Constant

variable {c l r : Constant} {signed signed' : Bool} {a b n : Int} {d : Descriptor}

/-- An integer is of the types of its signedness. -/
theorem Represents.isSignedInteger_of_fits (represents : c.Represents signed n)
    (fits : c.fits d = true) : d.isInteger = true ∧ d.category.isSignedInteger = signed := by
  cases represents with
  | int x =>
      have signs : d.isSignedInteger = true := fits
      have whole : d.isInteger = true := by rw [Descriptor.isInteger_eq_or, signs, Bool.true_or]
      exact ⟨whole, (Descriptor.isSignedInteger_of_isInteger whole).symm.trans signs⟩
  | uint x =>
      have unsigned : d.isUnsignedInteger = true := fits
      have whole : d.isInteger = true := by rw [Descriptor.isInteger_eq_or, unsigned, Bool.or_true]
      have kind : d.category.isUnsignedInteger = true := (Bool.and_eq_true_iff.1 unsigned).2
      exact ⟨whole, Category.isSignedInteger_of_isUnsignedInteger kind⟩

/-- The representation of the left integer is kept, unless there is nothing to represent. -/
theorem fold_integral {op : BinaryOp} (integral : op.isIntegral = true)
    (left : l.Represents signed a) (right : r.Represents signed' b) :
    fold op l r = .zeroDivisor ∨ ∃ c n, fold op l r = .value c ∧ c.Represents signed n := by
  rcases BinaryOp.eq_rem_or_toBinary_of_isIntegral integral with rfl | ⟨w, rfl⟩
  · by_cases zero : UInt64.ofInt b = 0
    · exact .inl ((fold_quotient_word (.inr rfl) left.isWord right.isWord).2 zero)
    · have folded : fold .rem (word signed a) r = _ := fold_rem_word right.isWord zero
      rw [← left.eq_word] at folded
      exact .inr ⟨_, _, folded, represents_word signed _⟩
  · have folded := fold_onIntegers w signed a right.isWord
    rw [← left.eq_word] at folded
    exact .inr ⟨_, _, folded, represents_word signed _⟩

end Constant

/-- A known number of its type is well formed. -/
theorem Value.IsNumber.wellFormed {v : Value} {c : Constant} (number : v.IsNumber c) :
    v.WellFormed := by
  unfold WellFormed
  rw [number.constant]
  exact ⟨number.known, number.fits⟩

/-! ## Operations -/

namespace Solver

variable {left right : Value} {operator : Operator}

/-- Integers are folded for the wider of their types. -/
theorem ruling_of_integers (s : Solver) (integral : operator.op.isIntegral = true)
    (leftWhole : left.type.unwrap.isInteger = true)
    (rightWhole : right.type.unwrap.isInteger = true) :
    let o := (operation left operator right).unwrapped
    s.ruling left right operator = o.fold (s.wider o) := by
  intro o
  have number : o.op.yieldsBool = false := BinaryOp.yieldsBool_of_isIntegral integral
  have shift : o.op.isShift = false := BinaryOp.isShift_of_isIntegral integral
  have logical : o.op.isLogical = false := (BinaryOp.yieldsBool_eq_false_iff.1 number).2
  obtain ⟨leftType, rightType⟩ := type_unwrapped left operator right
  have settled := s.ruling_of_isNumeric logical (Descriptor.isNumeric_of_isInteger leftWhole)
    (Descriptor.isNumeric_of_isInteger rightWhole)
  rw [← leftType] at leftWhole
  rw [← rightType] at rightWhole
  have ruled : s.settle o = s.integerRule o := settle_integers s logical leftWhole rightWhole
  have folded : s.integerRule o = o.fold (s.wider o) :=
    integerRule_eq_fold s (Descriptor.isNumeric_of_isInteger leftWhole)
      (Descriptor.isNumeric_of_isInteger rightWhole) number shift
  exact settled.trans (ruled.trans folded)

/-- Of integers that are not both known the result is of the wider type, and is not known. -/
theorem solve_unknown (s : Solver) (integral : operator.op.isIntegral = true)
    (leftWhole : left.type.unwrap.isInteger = true)
    (rightWhole : right.type.unwrap.isInteger = true)
    (unknown : (left.isConst && right.isConst) = false) (e : Evaluation) :
    let w := (s.solve left operator right e).1
    w.isConst = false ∧ w.type = s.wider (operation left operator right).unwrapped := by
  intro w
  let o := (operation left operator right).unwrapped
  have typed : o.fold (s.wider o) = .typed (s.wider o) := by
    have notBoth : o.bothConst = false := unknown
    unfold Operation.fold
    rw [notBoth]
    split
    · rename_i both
      cases both
    · rfl
  obtain ⟨leftType, rightType⟩ := type_unwrapped left operator right
  have bare : (s.wider o).isVoid = false :=
    isVoid_wider s (Descriptor.isNumeric_of_isInteger (leftType ▸ leftWhole))
      (Descriptor.isNumeric_of_isInteger (rightType ▸ rightWhole))
  have value : w = (Value.runtime (s.wider o).voided).withSpan operator.span := by
    simp only [w]
    rw [solve_value, ruling_of_integers s integral leftWhole rightWhole]
    show finish (o.fold (s.wider o)).outcome _ _ = _
    rw [typed]
    exact finish_of_constant_eq_none rfl _ _
  rw [value, Descriptor.voided_of_isVoid_eq_false bare]
  exact ⟨rfl, rfl⟩

/-- Of known integers the result is known, and of the signedness of the left one. -/
theorem solve_known (s : Solver) {a b : Int} (integral : operator.op.isIntegral = true)
    (leftInteger : left.IsInteger a) (rightInteger : right.IsInteger b) (e : Evaluation) :
    let v := (s.solve left operator right e).1
    v.isConst = true ∧ v.type.isInteger = true ∧
      v.type.category.isSignedInteger = left.type.unwrap.category.isSignedInteger := by
  intro v
  let o := (operation left operator right).unwrapped
  obtain ⟨l, signed, leftNumber, leftWhole⟩ := leftInteger.represents
  obtain ⟨r, signed', rightNumber, rightWhole⟩ := rightInteger.represents
  have ruled : s.ruling left right operator = o.fold (s.wider o) :=
    ruling_of_integers s integral leftInteger.integer rightInteger.integer
  have known : (left.isConst && right.isConst) = true :=
    Bool.and_eq_true_iff.2 ⟨leftNumber.known, rightNumber.known⟩
  obtain ⟨leftType, rightType⟩ := type_unwrapped left operator right
  obtain ⟨whole, signs⟩ := isSignedInteger_wider (s := s) (o := o)
    (leftType ▸ leftInteger.integer) (rightType ▸ rightInteger.integer)
  rcases Constant.fold_integral integral leftWhole rightWhole with divided | ⟨c, n, folded, kept⟩
  · -- the zero that stands in for the remainder keeps the wider type
    have zero : o.ZeroRuled (s.wider o) True (o.fold (s.wider o)) :=
      Operation.zeroRuled_fold (o := o) leftNumber.constant rightNumber.constant known
        (iff_true_intro divided) _
    have resolved : (s.wider o).aliasOf = none :=
      wider_of (P := (·.aliasOf = none))
        ((congrArg Descriptor.aliasOf leftType).trans (Descriptor.aliasOf_unwrap _))
        ((congrArg Descriptor.aliasOf rightType).trans (Descriptor.aliasOf_unwrap _))
    have substituted := zeroSubstituted_solve (o := o) s e known
      (Descriptor.isNumeric_of_isInteger whole) resolved rfl
      (ruled.trans (zero.substituted trivial))
    refine ⟨substituted.known, ?_, ?_⟩
    · exact (congrArg Descriptor.isInteger substituted.typed).trans whole
    · rw [← leftType, ← signs]
      exact congrArg (fun d => d.category.isSignedInteger) substituted.typed
  · -- the type is the narrowest category of the constant, which is represented as the left one is
    have outcome : (s.ruling left right operator).outcome =
        { type := s.wider o, constant := some c, width := .minimal } := by
      rw [ruled, o.fold_of_value leftNumber.constant rightNumber.constant known folded]
      rfl
    have bare : (s.wider o).isVoid = false :=
      Descriptor.isA_of_isNumeric (Descriptor.isNumeric_of_isInteger whole) rfl
    have value := solve_value s left right operator e
    rw [known, outcome, finish_true rfl bare] at value
    obtain ⟨-, typed, -⟩ := solve_of_constant_eq_some s right e leftNumber.wellFormed
      (BinaryOp.isShift_of_isIntegral integral) (congrArg Value.constant value)
    obtain ⟨integer, sign⟩ := kept.isSignedInteger_of_fits typed.fits
    obtain ⟨-, leftSign⟩ := leftWhole.isSignedInteger_of_fits leftNumber.fits
    exact ⟨congrArg Value.isConst value, integer, sign.trans leftSign.symm⟩

/-- **Knowing integers does not change the sign of what they make.**  Let `left` and `right` be
known integers, behind whichever aliases and enums, and let `left'` and `right'` be of the same
types and not both known.  A sum, difference, product or remainder of the first two, or their
bits combined, is known and has the type of an integer, and so has that of the other two,
which is not known; and the one category is signed exactly if the other is, and unsigned
exactly if the other is -- as that of the left type. -/
theorem solve_signedness (s : Solver) {left right left' right' : Value} {a b : Int}
    {operator : Operator} (integral : operator.op.isIntegral = true)
    (leftInteger : left.IsInteger a) (rightInteger : right.IsInteger b)
    (sameLeft : left'.type = left.type) (sameRight : right'.type = right.type)
    (unknown : (left'.isConst && right'.isConst) = false) (e e' : Evaluation) :
    let v := (s.solve left operator right e).1
    let w := (s.solve left' operator right' e').1
    (v.isConst = true ∧ v.type.isInteger = true) ∧ (w.isConst = false ∧ w.type.isInteger = true) ∧
      v.type.category.isSignedInteger = w.type.category.isSignedInteger ∧
      v.type.category.isUnsignedInteger = w.type.category.isUnsignedInteger ∧
      w.type.category.isSignedInteger = left.type.unwrap.category.isSignedInteger := by
  intro v w
  have leftWhole : left'.type.unwrap.isInteger = true := sameLeft ▸ leftInteger.integer
  have rightWhole : right'.type.unwrap.isInteger = true := sameRight ▸ rightInteger.integer
  obtain ⟨known, whole, signs⟩ := solve_known s integral leftInteger rightInteger e
  obtain ⟨notKnown, wider⟩ := solve_unknown s integral leftWhole rightWhole unknown e'
  obtain ⟨leftType, rightType⟩ := type_unwrapped left' operator right'
  obtain ⟨whole', signs'⟩ := isSignedInteger_wider (s := s) (leftType ▸ leftWhole)
    (rightType ▸ rightWhole)
  rw [leftType, ← wider, sameLeft] at signs'
  rw [← wider] at whole'
  have same : v.type.category.isSignedInteger = w.type.category.isSignedInteger :=
    signs.trans signs'.symm
  refine ⟨⟨known, whole⟩, ⟨notKnown, whole'⟩, same, ?_, signs'⟩
  rw [Descriptor.isUnsignedInteger_category whole, Descriptor.isUnsignedInteger_category whole',
    same]

/-- The remainder of an enum's signed 5 by an unsigned zero is signed, known or not. -/
theorem solve_signedness_enum_rem_zero :
    ∃ left right : Value, left = .ofConstant (.enumeration "E" (.scalar .intptr)) (.int 5) ∧
      right = .uint .u64 0 ∧ left.IsInteger 5 ∧ right.IsInteger 0 ∧
      BinaryOp.rem.isIntegral = true ∧
      ((ofConfig .standard).solve left (.detached .rem) right .empty).1.constant =
        some (.int 0) ∧
      ((ofConfig .standard).solve left (.detached .rem) right
        .empty).1.type.category.isSignedInteger = true ∧
      ((ofConfig .standard).solve (.runtime left.type) (.detached .rem) (.runtime right.type)
        .empty).1.type.category.isSignedInteger = true := by
  have five : (Value.ofConstant (.enumeration "E" (.scalar .intptr)) (.int 5)).IsInteger 5 :=
    ⟨rfl, by decide +kernel, _, rfl, by decide +kernel, rfl⟩
  have zero : (Value.uint .u64 0).IsInteger 0 := Value.isInteger_uint rfl _
  have integral : (Operator.detached .rem).op.isIntegral = true := rfl
  have typed : ∀ type : Descriptor, (Value.runtime type).type = type := fun _ => rfl
  obtain ⟨-, -, same, -, signed⟩ := solve_signedness (ofConfig .standard) integral five zero
    (typed _) (typed _) rfl .empty .empty
  have kind : (Value.ofConstant (.enumeration "E" (.scalar .intptr))
      (.int 5)).type.unwrap.category.isSignedInteger = true := by decide +kernel
  exact ⟨_, _, rfl, rfl, five, zero, integral, by decide +kernel, (same.trans signed).trans kind,
    signed.trans kind⟩

end Solver

end BinarySolver
