/-
# BinarySolver.Proofs.TruthValue -- which operations make truth values

A comparison and a logical operator are ruled to make a truth value, refused or not
(`isTruth_ruling`).  Nothing else is ruled to make one: a pointer is moved to a pointer, texts
are joined to a text, numbers are computed and shifted to numbers, and to make a number narrow
leaves a number (`isBool_narrowed`).  Only an operation that is refused is given the type of
its left operand unseen, which may be `bool`.  None of this looks at the constants of the
operands, so it holds of values whose constants are not of their types as well:
**`solve_isBool`**.
-/
import BinarySolver.Proofs.ShiftTyping

namespace BinarySolver

set_option autoImplicit false

/-! ## Narrow types -/

namespace Width

/-- The category of a shift is that of a number. -/
theorem isNumeric_ofShift (amount : UInt64) : (ofShift amount).isNumeric = true := by
  by_cases below : amount < 64
  · rw [Category.isNumeric, isInteger_ofShift below, Bool.true_or]
  · rw [Category.isNumeric, isFloat_ofShift (Nat.not_lt.1 below), Bool.or_true]

end Width

/-- What has a narrowest category is a number, and so is the category. -/
theorem Constant.isNumeric_of_minimalCategory? {c : Constant} {k : Category}
    (narrow : c.minimalCategory? = some k) : k.isNumeric = true := by
  cases c with
  | bool => cases narrow
  | str => cases narrow
  | float x =>
      cases narrow
      rw [Category.isNumeric, Width.isFloat_minimalFloat, Bool.or_true]
  | int x =>
      cases narrow
      rw [Category.isNumeric, Category.isInteger, Width.isSignedInteger_minimalSigned]
      rfl
  | uint x =>
      cases narrow
      rw [Category.isNumeric, Category.isInteger, Width.isUnsignedInteger_minimalUnsigned,
        Bool.or_true, Bool.true_or]

theorem Descriptor.isBool_voided {d : Descriptor} (other : d.isBool = false) :
    d.voided.isBool = false := by
  unfold voided
  split
  · rename_i void
    rw [isBool, isA, (isA_iff.1 void).1]
    rfl
  · exact other

namespace Solver

variable {outcome : Outcome}

/-- What is made narrow becomes no truth value. -/
theorem isBool_narrowed (other : outcome.type.isBool = false) (c : Constant) :
    (narrowed outcome c).isBool = false := by
  have number : ∀ k : Category, k.isNumeric = true → (Descriptor.scalar k).isBool = false := by
    intro k numeric
    exact Descriptor.isA_of_isNumeric ((Descriptor.isNumeric_scalar k).trans numeric) rfl
  unfold narrowed
  split
  · cases narrow : c.minimalCategory? with
    | none => exact other
    | some k => exact number k (Constant.isNumeric_of_minimalCategory? narrow)
  · exact number _ (Width.isNumeric_ofShift _)
  · exact other

/-- Finishing an outcome of another type makes no truth value of it. -/
theorem isBool_finish (other : outcome.type.isBool = false) (bothConst : Bool) (span : Span) :
    (finish outcome bothConst span).type.isBool = false := by
  rcases finish_cases outcome bothConst span with unknown | ⟨c, -, -, known⟩
  · rw [unknown]
    exact Descriptor.isBool_voided other
  · rw [known]
    exact isBool_narrowed other c

/-! ## Rulings -/

/-- Folding keeps the type for which it is done. -/
theorem type_fold (p : Operation) (type : Descriptor) : (p.fold type).outcome.type = type := by
  have folds := p.fold_folds type
  generalize p.fold type = r at folds ⊢
  cases folds <;> rfl

theorem type_shiftRule (o : Operation) : (shiftRule o).outcome.type = .scalar .u64 := by
  have same := type_fold o (.scalar .u64)
  unfold shiftRule
  dsimp only
  split <;> split <;> exact same

/-- An operator that makes no truth values is ruled to make none, unless it is refused. -/
theorem Verdict.isBool_eq_false {s : Solver} {o : Operation} {r : Ruling}
    (verdict : Verdict s o r) (other : o.op.yieldsBool = false)
    (allowed : ∀ d ∈ r.diagnostics, d.severity ≠ .error) : r.outcome.type.isBool = false := by
  cases verdict with
  | @refused kind _ _ fails =>
      exact absurd (beq_iff_eq.1 fails) (allowed _ (.head _))
  | swapped => exact absurd rfl (allowed _ (.head _))
  | compared comparison =>
      rw [BinaryOp.yieldsBool_of_isComparison comparison] at other
      cases other
  | moved _ pointer => exact Descriptor.isA_of_isPointer pointer (by decide)
  | known _ equality =>
      rw [BinaryOp.yieldsBool_of_isEquality equality] at other
      cases other
  | truth _ yields =>
      rw [yields] at other
      cases other
  | joined =>
      rw [type_fold]
      rfl
  | @computed p recast left right =>
      obtain ⟨leftNumber, rightNumber⟩ := recast.isNumeric left right
      rw [type_fold]
      exact wider_of (P := (·.isBool = false)) (Descriptor.isA_of_isNumeric leftNumber rfl)
        (Descriptor.isA_of_isNumeric rightNumber rfl)
  | shifted =>
      rw [type_shiftRule]
      rfl

/-- **Which operations make truth values**, whatever the operands are, and even if they hold
constants that are not of their types.  A comparison and a logical operator make a value of
type `bool`, known as a truth value if it is known at all.  Of any other operator the result is
of another type than `bool`, unless this solve reports an error. -/
theorem solve_isBool (s : Solver) (left right : Value) (operator : Operator) (e : Evaluation) :
    let v := (s.solve left operator right e).1
    let reported := (s.solve left operator right e).2.diagnostics.drop e.diagnostics.length
    (operator.op.yieldsBool = true →
        v.type = .bool ∧ ∀ c, v.constant = some c → ∃ b, c = .bool b) ∧
      (operator.op.yieldsBool = false → (∀ d ∈ reported, d.severity ≠ .error) →
        v.type.isBool = false) := by
  intro v reported
  have value := solve_value s left right operator e
  constructor
  · intro yields
    have truth := isTruth_ruling s left right yields
    simp only [v, value]
    exact finish_of_isTruth truth _ _
  · intro other allowed
    have ruled : reported = (s.ruling left right operator).diagnostics := by
      simp only [reported, solve_diagnostics, List.drop_left]
    have verdict : Verdict s (operation left operator right).settled
        (s.ruling left right operator) := settle_verdict s _
    have number : (operation left operator right).settled.op.yieldsBool = false := by
      rw [Operation.op_settled]
      exact other
    simp only [v, value]
    exact isBool_finish (verdict.isBool_eq_false number (ruled ▸ allowed)) _ _

/-- Numbers that claim to be truth values are compared to a truth value, and truth values that
claim to be numbers are added to what claims to be a number. -/
theorem solve_isBool_of_mistyped :
    ∃ truth number : Value, truth = .ofConstant .bool (.int 1) ∧
      number = .ofConstant (.scalar .i32) (.bool true) ∧
      ((ofConfig .standard).solve truth (.detached .eq) truth .empty).1.type = .bool ∧
      ((ofConfig .standard).solve truth (.detached .eq) truth .empty).1.constant =
        some (.bool true) ∧
      ((ofConfig .standard).solve number (.detached .add) number .empty).2.diagnostics = [] ∧
      ((ofConfig .standard).solve number (.detached .add) number .empty).1.type.isBool =
        false := by
  let truth : Value := .ofConstant .bool (.int 1)
  let number : Value := .ofConstant (.scalar .i32) (.bool true)
  obtain ⟨compared, -⟩ := solve_isBool (ofConfig .standard) truth truth (.detached .eq) .empty
  obtain ⟨-, added⟩ := solve_isBool (ofConfig .standard) number number (.detached .add) .empty
  have silent : ((ofConfig .standard).solve number (.detached .add) number
      .empty).2.diagnostics = [] := by decide +kernel
  refine ⟨truth, number, rfl, rfl, (compared rfl).1, by decide +kernel, silent, added rfl ?_⟩
  intro d reported
  rw [silent] at reported
  cases reported

end Solver

end BinarySolver
