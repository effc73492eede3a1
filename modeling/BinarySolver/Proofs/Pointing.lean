/-
# BinarySolver.Proofs.Pointing -- the places that a diagnostic points to

Whatever is reported of an operation is reported at its operator.  Only types that cannot
meet are shown at further places: at both operands, each with its own type and the left one
first, whichever of them a rule looks at first (`settle_points`).  The value stands at the
operator as well (`span_solve`).
-/
import BinarySolver.Proofs.Accounting

namespace BinarySolver

set_option autoImplicit false

namespace Operation

variable {o p : Operation} {r : Ruling}

/-- A ruling reports at the operator, and shows the operands of types that cannot meet. -/
def Points (o : Operation) (r : Ruling) : Prop :=
  ∀ d ∈ r.diagnostics, d.span = o.operator.span ∧ d.related =
    if d.kind = .incompatibleTypes then relatedTo o.left ++ relatedTo o.right else []

theorem points_of_diagnostics (silent : r.diagnostics = []) : o.Points r := by
  rw [Points, silent]
  exact nofun

theorem points_typed (o : Operation) (type : Descriptor) : o.Points (.typed type) :=
  points_of_diagnostics rfl

/-- What is reported of anything but the meeting of the types. -/
theorem points_singleton {kind : DiagnosticKind} {arguments : List String}
    (reported : r.diagnostics = [.report kind o.operator.span arguments []])
    (other : kind ≠ .incompatibleTypes) : o.Points r := by
  intro d member
  rw [reported, List.mem_singleton] at member
  subst member
  exact ⟨rfl, (if_neg other).symm⟩

theorem points_incompatible (o : Operation) : o.Points o.incompatible := by
  intro d member
  obtain rfl := List.mem_singleton.1 member
  exact ⟨rfl, (if_pos rfl).symm⟩

/-- Any operation at the same operator is refused there. -/
theorem points_undefinedFor (same : p.operator = o.operator) (signature : String) :
    o.Points (p.undefinedFor signature) :=
  points_singleton (by rw [← same]; rfl) (by decide)

theorem points_fold (same : p.operator = o.operator) (type : Descriptor) :
    o.Points (p.fold type) := by
  rcases p.diagnostics_fold type with silent | ⟨-, zero⟩
  · exact points_of_diagnostics silent
  · rw [same] at zero
    exact points_singleton zero (by decide)

end Operation

namespace Solver

open Operation

/-! ## Rule by rule -/

section Rules

variable (s : Solver) (o : Operation)

theorem points_logicalRule : o.Points (logicalRule o) := by
  unfold logicalRule
  split
  · exact points_fold rfl _
  · exact points_singleton rfl (by decide)

/-- Several rules compare for equality, unless the operands cannot meet. -/
theorem points_equality (strangers : Bool) (signature : String) :
    o.Points
      (if strangers then o.incompatible
        else if o.op.isEquality then .typed .bool
        else o.undefinedFor signature) := by
  split
  · exact points_incompatible o
  split
  · exact points_typed o _
  · exact points_undefinedFor rfl _

/-- With the pointer moved to the left, the types have met. -/
theorem points_pointerRule : o.Points (s.pointerRule o) := by
  unfold pointerRule
  split
  · exact points_incompatible o
  have same : (if o.left.type.isPointer then o else o.swap).operator = o.operator := by
    split <;> rfl
  dsimp only
  generalize (if o.left.type.isPointer then o else o.swap) = p at same ⊢
  split
  · exact points_typed o _
  split
  · exact points_typed o _
  · exact points_undefinedFor same _

theorem points_nilRule : o.Points (s.nilRule o) := by
  unfold nilRule
  split
  · exact points_incompatible o
  split
  · exact points_of_diagnostics rfl
  · exact points_of_diagnostics rfl
  · exact points_undefinedFor rfl _

theorem points_anyRule : o.Points (anyRule o) := by
  unfold anyRule
  split
  · exact points_typed o _
  · exact points_undefinedFor rfl _

theorem points_booleanRule : o.Points (s.booleanRule o) := by
  unfold booleanRule
  split
  · exact points_incompatible o
  split
  · exact points_fold rfl _
  · exact points_undefinedFor rfl _

theorem points_stringRule : o.Points (stringRule o) := by
  unfold stringRule
  split
  · exact points_incompatible o
  split
  · exact points_fold rfl _
  split
  · exact points_fold rfl _
  · exact points_undefinedFor rfl _

variable {o}

theorem points_shiftRule {p : Operation} (same : p.operator = o.operator)
    (shift : p.op.isShift = true) : o.Points (shiftRule p) := by
  have reported := diagnostics_shiftRule shift
  rw [same] at reported
  split at reported
  · exact points_of_diagnostics reported
  · exact points_singleton reported (by decide)

/-- The rule for integers on the operation itself, or on numbers that stand for its own. -/
theorem points_integerRule {p : Operation} (same : p.operator = o.operator)
    (numbers : p = o ∨ p.left.type.isNumeric = true ∧ p.right.type.isNumeric = true) :
    o.Points (s.integerRule p) := by
  unfold integerRule
  split
  · rename_i strangers
    rcases numbers with rfl | ⟨left, right⟩
    · exact points_incompatible p
    · rw [left, right] at strangers
      cases strangers
  split
  · exact points_shiftRule same ‹_›
  split
  · exact points_fold same _
  split
  · exact points_fold same _
  · exact points_undefinedFor same _

theorem points_floatRule : o.Points (s.floatRule o) := by
  unfold floatRule
  split
  · exact points_incompatible o
  rename_i numbers
  simp only [Bool.not_eq_true, Bool.not_eq_false', Bool.and_eq_true] at numbers
  obtain ⟨left, right⟩ := numbers
  split
  · rename_i rem
    split
    · rename_i p made
      have recast : Recast o p := .whole (beq_iff_eq.1 rem) made
      exact points_integerRule s recast.operator_eq (.inr (recast.isNumeric left right))
    · exact points_undefinedFor rfl _
  split
  · exact points_undefinedFor rfl _
  · exact points_fold Recast.promoted.operator_eq _

end Rules

/-- **What is reported of an operation is reported at its operator**, and nothing but types
that cannot meet is shown at the operands. -/
theorem settle_points (s : Solver) (o : Operation) : o.Points (s.settle o) := by
  unfold settle
  cases Handler.select o with
  | none => exact points_undefinedFor rfl _
  | some handler =>
      cases handler with
      | logical => exact points_logicalRule o
      | function => exact points_equality o _ _
      | array => exact points_equality o _ _
      | slice => exact points_equality o _ _
      | pointer => exact points_pointerRule s o
      | enum => exact points_undefinedFor rfl _
      | struct => exact points_equality o _ _
      | trait => exact points_equality o _ _
      | nil => exact points_nilRule s o
      | any => exact points_anyRule o
      | bool => exact points_booleanRule s o
      | str => exact points_stringRule o
      | float => exact points_floatRule s
      | unsigned => exact points_integerRule s rfl (.inl rfl)
      | signed => exact points_integerRule s rfl (.inl rfl)

/-- The value of an operation stands at its operator. -/
theorem span_solve (s : Solver) (left : Value) (operator : Operator) (right : Value)
    (e : Evaluation) : (s.solve left operator right e).1.span = operator.span := by
  rw [solve_value]
  rcases finish_cases (s.ruling left right operator).outcome (left.isConst && right.isConst)
    operator.span with unknown | ⟨c, -, -, known⟩
  · rw [unknown]
    rfl
  · rw [known]

end Solver

end BinarySolver
