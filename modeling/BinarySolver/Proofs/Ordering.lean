/-
# BinarySolver.Proofs.Ordering -- which of two known numbers is the less

The left one of two integers decides the representation in which they are compared, so
`a < b` and `b > a` are compared in two representations if one is signed and the other is
not.  Both comparisons are known, and they say the same unless exactly one of the two words
has its highest bit set (`Constant.Clashes`); then they say the opposite
(`solve_ordering`).  Floats are no such case: they are compared as floats from either side.
-/
import Mathlib.Algebra.Group.Nat.Defs
import BinarySolver.Proofs.Transparency
import BinarySolver.Proofs.WellTyped

namespace BinarySolver

set_option autoImplicit false

namespace BinaryOp

variable {op : BinaryOp}

/-- The operators that ask which of two is the less. -/
def isOrdering : BinaryOp → Bool
  | lt | gt | le | ge => true
  | _ => false

/-- The operator that asks the same of operands that have changed places. -/
def mirror : BinaryOp → BinaryOp
  | lt => gt
  | gt => lt
  | le => ge
  | ge => le
  | op => op

theorem mirror_mirror (op : BinaryOp) : op.mirror.mirror = op := by cases op <;> rfl

theorem isOrdering_mirror (op : BinaryOp) : op.mirror.isOrdering = op.isOrdering := by
  cases op <;> rfl

theorem isComparison_of_isOrdering (ordering : op.isOrdering = true) :
    op.isComparison = true := by
  cases op <;> first | rfl | cases ordering

theorem isShift_of_isComparison (comparison : op.isComparison = true) : op.isShift = false := by
  cases op <;> first | rfl | cases comparison

theorem isLogical_of_isComparison (comparison : op.isComparison = true) :
    op.isLogical = false := by
  cases op <;> first | rfl | cases comparison

end BinaryOp

namespace Constant

variable {op : BinaryOp}

/-! ## Two representations -/

/-- One is a signed and the other an unsigned integer, and exactly one of the two words
has its highest bit set: the signed one is negative, or the unsigned one is too large to
be signed, but not both. -/
def Clashes : Constant → Constant → Prop
  | int x, uint y | uint y, int x => x < 0 ↔ y.toNat < 2 ^ 63
  | _, _ => False

theorem clashes_iff_msb (x : Int64) (y : UInt64) :
    (int x).Clashes (uint y) ↔ x.toBitVec.msb ≠ y.toBitVec.msb := by
  have negative : x < 0 ↔ x.toBitVec.msb = true := by
    rw [Int64.lt_iff_toBitVec_slt, Int64.toBitVec_zero, BitVec.slt_zero_eq_msb]
  have small : y.toNat < 2 ^ 63 ↔ y.toBitVec.msb = false := by
    rw [BitVec.msb_eq_decide, decide_eq_false_iff_not, Nat.not_le]
    rfl
  show (x < 0 ↔ y.toNat < 2 ^ 63) ↔ _
  rw [negative, small]
  cases x.toBitVec.msb <;> cases y.toBitVec.msb <;> simp

/-- Words are ordered alike as signed and as unsigned numbers if and only if their highest
bits are the same. -/
theorem slt_eq_ult_iff (x y : BitVec 64) : x.slt y = x.ult y ↔ x.msb = y.msb := by
  by_cases same : x.msb = y.msb
  · simp [BitVec.slt_eq_ult_of_msb_eq same, same]
  · simp [BitVec.slt_eq_not_ult_of_msb_neq same, same]

/-- A signed and an unsigned word, compared as signed words in one order and as unsigned
words in the other. -/
theorem compare_words (ordering : op.isOrdering = true) (x : Int64) (y : UInt64) :
    ∃ p q, compare op x y.toInt64 = some p ∧ compare op.mirror y x.toUInt64 = some q ∧
      (p = q ↔ ¬ (int x).Clashes (uint y)) := by
  let a := x.toBitVec
  let b := y.toBitVec
  have clash : ¬ (int x).Clashes (uint y) ↔ a.msb = b.msb := by
    rw [clashes_iff_msb, Classical.not_not]
  rw [clash]
  have less : decide (x < y.toInt64) = a.slt b := by simp [Int64.lt_iff_toBitVec_slt, a, b]
  have more : decide (y.toInt64 < x) = b.slt a := by simp [Int64.lt_iff_toBitVec_slt, a, b]
  have below : decide (x.toUInt64 < y) = a.ult b := by
    simp [UInt64.lt_iff_toBitVec_lt, BitVec.ult, BitVec.lt_def, a, b]
  have above : decide (y < x.toUInt64) = b.ult a := by
    simp [UInt64.lt_iff_toBitVec_lt, BitVec.ult, BitVec.lt_def, a, b]
  cases op with
  | lt => exact ⟨_, _, congrArg some less, congrArg some below, slt_eq_ult_iff a b⟩
  | gt =>
      refine ⟨_, _, congrArg some more, congrArg some above, ?_⟩
      rw [slt_eq_ult_iff, eq_comm]
  | le =>
      have first : decide (x ≤ y.toInt64) = !b.slt a := by
        rw [← more, ← decide_not, decide_eq_decide, Int64.not_lt]
      have second : decide (x.toUInt64 ≤ y) = !b.ult a := by
        rw [← above, ← decide_not, decide_eq_decide, UInt64.not_lt]
      refine ⟨_, _, congrArg some first, congrArg some second, ?_⟩
      rw [Bool.not_inj_iff, slt_eq_ult_iff, eq_comm]
  | ge =>
      have first : decide (y.toInt64 ≤ x) = !a.slt b := by
        rw [← less, ← decide_not, decide_eq_decide, Int64.not_lt]
      have second : decide (y ≤ x.toUInt64) = !a.ult b := by
        rw [← below, ← decide_not, decide_eq_decide, UInt64.not_lt]
      refine ⟨_, _, congrArg some first, congrArg some second, ?_⟩
      rw [Bool.not_inj_iff, slt_eq_ult_iff]
  | _ => cases ordering

/-- In one representation the mirrored comparison is the same comparison. -/
theorem compare_mirror {α : Type} [BEq α] [LT α] [LE α] [DecidableLT α] [DecidableLE α]
    (ordering : op.isOrdering = true) (l r : α) :
    ∃ p, compare op l r = some p ∧ compare op.mirror r l = some p := by
  cases op <;> first | exact ⟨_, rfl, rfl⟩ | cases ordering

/-- Two numbers of which none or both are floats are compared in both orders, with the
same answer if and only if they do not clash. -/
theorem fold_mirror (ordering : op.isOrdering = true) {l r : Constant}
    (left : l.isNumber = true) (right : r.isNumber = true) (alike : l.isFloat = r.isFloat) :
    ∃ p q, fold op l r = .value (bool p) ∧ fold op.mirror r l = .value (bool q) ∧
      (p = q ↔ ¬ l.Clashes r) := by
  have comparison := BinaryOp.isComparison_of_isOrdering ordering
  have comparison' : op.mirror.isComparison = true := by
    apply BinaryOp.isComparison_of_isOrdering
    rwa [BinaryOp.isOrdering_mirror]
  have agree : ∀ {c d : Constant} {p : Bool}, ¬ c.Clashes d → (p = p ↔ ¬ c.Clashes d) :=
    fun apart => ⟨fun _ => apart, fun _ => rfl⟩
  cases l with
  | bool => cases left
  | str => cases left
  | float x =>
      cases r with
      | float y =>
          obtain ⟨p, first, second⟩ := compare_mirror ordering x y
          exact ⟨p, p, foldFloat_of_compare comparison first,
            foldFloat_of_compare comparison' second, agree id⟩
      | _ => cases alike
  | int x =>
      cases r with
      | int y =>
          obtain ⟨p, first, second⟩ := compare_mirror ordering x y
          exact ⟨p, p, foldInt_of_compare comparison first _,
            foldInt_of_compare comparison' second _, agree id⟩
      | uint y =>
          obtain ⟨p, q, first, second, same⟩ := compare_words ordering x y
          exact ⟨p, q, foldInt_of_compare comparison first _,
            foldUInt_of_compare comparison' second, same⟩
      | bool => cases right
      | str => cases right
      | float => cases alike
  | uint x =>
      cases r with
      | int y =>
          rw [← BinaryOp.isOrdering_mirror] at ordering
          obtain ⟨q, p, second, first, same⟩ := compare_words ordering y x
          rw [BinaryOp.mirror_mirror] at first
          refine ⟨p, q, foldUInt_of_compare comparison first,
            foldInt_of_compare comparison' second _, ?_⟩
          rw [eq_comm, same]
          rfl
      | uint y =>
          obtain ⟨p, first, second⟩ := compare_mirror ordering x y
          exact ⟨p, p, foldUInt_of_compare comparison first,
            foldUInt_of_compare comparison' second, agree id⟩
      | bool => cases right
      | str => cases right
      | float => cases alike

/-- What one number is compared with another as: as a float if either is one. -/
def against (x y : Constant) : Constant :=
  if x.isFloat || y.isFloat then (x.asFloat?.map float).getD x else x

theorem isNumber_against {x : Constant} (number : x.isNumber = true) (y : Constant) :
    (x.against y).isNumber = true := by
  unfold against
  split
  · cases x with
    | bool => cases number
    | str => cases number
    | _ => rfl
  · exact number

theorem isFloat_against {x : Constant} (number : x.isNumber = true) (y : Constant) :
    (x.against y).isFloat = (x.isFloat || y.isFloat) := by
  unfold against
  split
  · rename_i floats
    rw [floats]
    cases x with
    | bool => cases number
    | str => cases number
    | _ => rfl
  · rename_i whole
    rw [Bool.not_eq_true, Bool.or_eq_false_iff] at whole
    rw [whole.1, whole.2]
    rfl

/-- Two numbers clash as they are compared if and only if they clash. -/
theorem clashes_against (x y : Constant) : (x.against y).Clashes (y.against x) ↔ x.Clashes y := by
  cases x <;> cases y <;> exact Iff.rfl

theorem isFloat_eq_of_fits {c : Constant} {d : Descriptor} (fits : c.fits d = true) :
    c.isFloat = d.isFloat := by
  have other : ∀ k : Category, k.isFloat = false → d.isA k = true → d.isFloat = false := by
    intro k number kind
    rw [Descriptor.isFloat, (Descriptor.isA_iff.1 kind).1, number, Bool.and_false]
  unfold Constant.fits at fits
  cases c with
  | bool => exact (other .bool rfl fits).symm
  | str => exact (other .str rfl fits).symm
  | float => exact fits.symm
  | int =>
      have whole : d.isInteger = true := by simp [Descriptor.isInteger_eq_or, fits]
      exact (Descriptor.isFloat_of_isInteger whole).symm
  | uint =>
      have whole : d.isInteger = true := by simp [Descriptor.isInteger_eq_or, fits]
      exact (Descriptor.isFloat_of_isInteger whole).symm

end Constant

/-- A known number of its type, which may stand behind aliases and enums. -/
structure Value.IsNumber (v : Value) (c : Constant) : Prop where
  known : v.isConst = true
  constant : v.constant = some c
  numeric : v.type.unwrap.isNumeric = true
  fits : c.fits v.type.unwrap = true

theorem Value.IsNumber.isNumber {v : Value} {c : Constant} (number : v.IsNumber c) :
    c.isNumber = true :=
  Constant.fits_isNumeric number.numeric number.fits

namespace Solver

variable {l r : Constant} {b : Bool}

/-- Promoting puts the float in the place of a number. -/
theorem promote_of_isNumber {v : Value} {c : Constant} (constant : v.constant = some c)
    (number : c.isNumber = true) :
    (promote v).constant = some ((c.asFloat?.map .float).getD c) := by
  unfold promote
  rw [constant]
  cases c with
  | bool => cases number
  | str => cases number
  | _ => rfl

/-- An operation on two known numbers of their types. -/
structure OnNumbers (o : Operation) (l r : Constant) : Prop where
  known : o.bothConst = true
  left : o.left.constant = some l
  right : o.right.constant = some r
  leftNumeric : o.left.type.isNumeric = true
  rightNumeric : o.right.type.isNumeric = true
  leftFits : l.fits o.left.type = true
  rightFits : r.fits o.right.type = true

/-- Two known numbers are solved as the numbers behind their aliases and enums. -/
theorem ruling_of_numbers (s : Solver) {left right : Value} (leftNumber : left.IsNumber l)
    (rightNumber : right.IsNumber r) {operator : Operator}
    (logical : operator.op.isLogical = false) :
    let o := (operation left operator right).unwrapped
    OnNumbers o l r ∧ s.ruling left right operator = s.settle o := by
  intro o
  obtain ⟨leftType, rightType⟩ := type_unwrapped left operator right
  refine ⟨?_, ruling_of_isNumeric s logical leftNumber.numeric rightNumber.numeric⟩
  exact
    { known := Bool.and_eq_true_iff.2 ⟨leftNumber.known, rightNumber.known⟩
      left := leftNumber.constant
      right := rightNumber.constant
      leftNumeric := leftType ▸ leftNumber.numeric
      rightNumeric := rightType ▸ rightNumber.numeric
      leftFits := leftType ▸ leftNumber.fits
      rightFits := rightType ▸ rightNumber.fits }

/-- The comparison of two known numbers is known, and is what they fold to as they are
compared with each other. -/
theorem settle_compared (s : Solver) {o : Operation} (numbers : OnNumbers o l r)
    (comparison : o.op.isComparison = true)
    (folded : Constant.fold o.op (l.against r) (r.against l) = .value (.bool b)) :
    (s.settle o).outcome = { type := .bool, constant := some (.bool b), width := .minimal } := by
  obtain ⟨known, left, right, leftNumber, rightNumber, leftFits, rightFits⟩ := numbers
  have logical := BinaryOp.isLogical_of_isComparison comparison
  have floats : o.either Descriptor.isFloat = (l.isFloat || r.isFloat) := by
    rw [Operation.either, ← Constant.isFloat_eq_of_fits leftFits,
      ← Constant.isFloat_eq_of_fits rightFits]
  have selected := Handler.select_numbers logical leftNumber rightNumber
  rw [floats] at selected
  unfold Constant.against at folded
  rw [Bool.or_comm r.isFloat] at folded
  cases float : l.isFloat || r.isFloat with
  | true =>
      rw [float] at selected folded
      have rem : (o.op == .rem) = false := BinaryOp.beq_eq_false_of_property comparison rfl
      let p := { o with left := promote o.left, right := promote o.right }
      have ruled : s.settle o = p.fold .bool := by
        simp [settle, selected, floatRule, leftNumber, rightNumber, rem, comparison, p]
      have leftFloat : p.left.constant = _ :=
        promote_of_isNumber left (Constant.fits_isNumeric leftNumber leftFits)
      have rightFloat : p.right.constant = _ :=
        promote_of_isNumber right (Constant.fits_isNumeric rightNumber rightFits)
      have still : p.bothConst = true := by
        obtain ⟨x, first⟩ := promote_eq o.left
        obtain ⟨y, second⟩ := promote_eq o.right
        show ((promote o.left).isConst && (promote o.right).isConst) = true
        rw [first, second]
        exact known
      rw [ruled, p.fold_of_value leftFloat rightFloat still folded]
      rfl
  | false =>
      rw [float] at selected folded
      have shift := BinaryOp.isShift_of_isComparison comparison
      have ruled : s.settle o = o.fold .bool := by
        unfold settle
        rw [selected]
        cases o.either Descriptor.isUnsignedInteger <;>
          simp [integerRule, leftNumber, rightNumber, shift, comparison]
      rw [ruled, o.fold_of_value left right known folded]
      rfl

/-- What two known numbers are compared to. -/
theorem solve_compared (s : Solver) {left right : Value} (leftNumber : left.IsNumber l)
    (rightNumber : right.IsNumber r) {operator : Operator}
    (comparison : operator.op.isComparison = true)
    (folded : Constant.fold operator.op (l.against r) (r.against l) = .value (.bool b))
    (e : Evaluation) : (s.solve left operator right e).1.constant = some (.bool b) := by
  have logical := BinaryOp.isLogical_of_isComparison comparison
  obtain ⟨numbers, ruled⟩ := ruling_of_numbers s leftNumber rightNumber logical
  rw [solve_value, ruled, settle_compared s numbers comparison folded, leftNumber.known,
    rightNumber.known]
  exact congrArg Value.constant (finish_true rfl rfl operator.span)

/-- **Which of two known numbers is the less is known from both sides.**  The mirrored
comparison of the operands in the other order says the same if and only if they do not
clash. -/
theorem solve_ordering (s s' : Solver) {left right : Value} (leftNumber : left.IsNumber l)
    (rightNumber : right.IsNumber r) {op : BinaryOp} (ordering : op.isOrdering = true)
    (span span' : Span) (e e' : Evaluation) :
    ∃ p q, (s.solve left ⟨op, span⟩ right e).1.constant = some (.bool p) ∧
      (s'.solve right ⟨op.mirror, span'⟩ left e').1.constant = some (.bool q) ∧
      (p = q ↔ ¬ l.Clashes r) := by
  have leftKind := leftNumber.isNumber
  have rightKind := rightNumber.isNumber
  have alike : (l.against r).isFloat = (r.against l).isFloat := by
    rw [Constant.isFloat_against leftKind, Constant.isFloat_against rightKind, Bool.or_comm]
  obtain ⟨p, q, first, second, same⟩ := Constant.fold_mirror ordering
    (Constant.isNumber_against leftKind r) (Constant.isNumber_against rightKind l) alike
  have comparison := BinaryOp.isComparison_of_isOrdering ordering
  have comparison' : op.mirror.isComparison = true := by
    apply BinaryOp.isComparison_of_isOrdering
    rwa [BinaryOp.isOrdering_mirror]
  refine ⟨p, q, ?_, ?_, ?_⟩
  · exact solve_compared s leftNumber rightNumber comparison first e
  · exact solve_compared s' rightNumber leftNumber comparison' second e'
  · rw [same, Constant.clashes_against]

/-- An enum of -3 is less than the largest `u64`, which is greater than it: each word has its
highest bit set. -/
theorem solve_ordering_enum_lt :
    ∃ left right : Value,
      left = .ofConstant (.enumeration "E" (.scalar .i8)) (.int (-3)) ∧
      right = .uint .u64 18446744073709551615 ∧
      left.IsNumber (.int (-3)) ∧ right.IsNumber (.uint 18446744073709551615) ∧
      ((ofConfig .standard).solve left (.detached .lt) right .empty).1.constant =
        some (.bool true) ∧
      ((ofConfig .standard).solve right (.detached .gt) left .empty).1.constant =
        some (.bool true) := by
  have leftNumber : (Value.ofConstant (.enumeration "E" (.scalar .i8)) (.int (-3))).IsNumber
      (.int (-3)) := ⟨rfl, rfl, by decide +kernel, by decide +kernel⟩
  have rightNumber : (Value.uint .u64 18446744073709551615).IsNumber
      (.uint 18446744073709551615) := ⟨rfl, rfl, by decide +kernel, by decide +kernel⟩
  have ordering : BinaryOp.lt.isOrdering = true := rfl
  have apart : ¬ (Constant.int (-3)).Clashes (.uint 18446744073709551615) := by
    show ¬ ((-3 : Int64) < 0 ↔ (18446744073709551615 : UInt64).toNat < 2 ^ 63)
    decide
  obtain ⟨p, q, less, greater, same⟩ := solve_ordering (ofConfig .standard) (ofConfig .standard)
    leftNumber rightNumber ordering .detached .detached .empty .empty
  have folded : ((ofConfig .standard).solve
      (.ofConstant (.enumeration "E" (.scalar .i8)) (.int (-3))) (.detached .lt)
      (.uint .u64 18446744073709551615) .empty).1.constant = some (.bool true) := by decide +kernel
  have truth : p = true := by
    have known := less.symm.trans folded
    cases known
    rfl
  refine ⟨_, _, rfl, rfl, leftNumber, rightNumber, folded, ?_⟩
  rw [← truth, same.2 apart]
  exact greater

/-- A signed -1 is less than an unsigned 1 as a signed number, and is as an unsigned number
what 1 is not greater than. -/
theorem int_lt_uint_and_not_gt :
    (Value.int .i32 (-1)).IsNumber (.int (-1)) ∧ (Value.uint .u32 1).IsNumber (.uint 1) ∧
      ((ofConfig .standard).solve (.int .i32 (-1)) (.detached .lt) (.uint .u32 1)
        .empty).1.constant = some (.bool true) ∧
      ((ofConfig .standard).solve (.uint .u32 1) (.detached .gt) (.int .i32 (-1))
        .empty).1.constant = some (.bool false) := by
  refine ⟨⟨rfl, rfl, ?_, ?_⟩, ⟨rfl, rfl, ?_, ?_⟩, ?_, ?_⟩ <;> decide +kernel

end Solver

end BinarySolver
