/-
# BinarySolver.Proofs.Refusal -- whether an operation is refused is a matter of types

A rule looks at the constants of its operands to fold them, to warn of them and to tell
what is equal to nil, but never to refuse them, unless it is asked for the remainder of a
float.  What the errors of a ruling say (`Ruling.refusals`) is what they say of operands of
which the types only are known (`refusals_settle`), so operands of the same types are refused
alike, with the same words (`solve_refusals`).
-/
import BinarySolver.Proofs.Folding

namespace BinarySolver

set_option autoImplicit false

/-- What a diagnostic says, wherever it stands. -/
def Diagnostic.content (d : Diagnostic) : DiagnosticKind × String := (d.kind, d.message)

namespace Ruling

variable {r : Ruling}

/-- The errors among the diagnostics of a ruling. -/
def errors (r : Ruling) : List Diagnostic := r.diagnostics.filter Diagnostic.isError

/-- What the errors of a ruling say. -/
def refusals (r : Ruling) : List (DiagnosticKind × String) := r.errors.map Diagnostic.content

theorem refusals_of_diagnostics (silent : r.diagnostics = []) : r.refusals = [] := by
  rw [refusals, errors, silent]
  rfl

theorem refusals_typed (type : Descriptor) : (typed type).refusals = [] := rfl

/-- A warning refuses nothing. -/
theorem refusals_warn {d : Diagnostic} (warning : d.isError = false) :
    (r.warn d).refusals = r.refusals := by
  rw [refusals, errors, warn, List.filter_cons_of_neg (by simp [warning])]
  rfl

end Ruling

namespace Operation

variable (o : Operation)

/-- The operation on operands of which the types only are known. -/
def typesOnly : Operation :=
  { left := .runtime o.left.type, right := .runtime o.right.type, operator := .detached o.op }

theorem refusals_incompatible :
    o.incompatible.refusals = [(.incompatibleTypes,
      DiagnosticKind.message .incompatibleTypes [o.left.type.signature, o.right.type.signature])] :=
  rfl

theorem refusals_undefinedFor (signature : String) :
    (o.undefinedFor signature).refusals = [(.operatorNotForType,
      DiagnosticKind.message .operatorNotForType [o.op.symbol, signature])] :=
  rfl

/-- Folding refuses nothing: a division by zero is a warning. -/
theorem refusals_fold (type : Descriptor) : (o.fold type).refusals = [] := by
  rcases o.diagnostics_fold type with silent | ⟨-, zero⟩
  · exact Ruling.refusals_of_diagnostics silent
  · rw [Ruling.refusals, Ruling.errors, zero]
    rfl

/-! ## The choice of a rule -/

theorem unwrapEnums?_typesOnly : o.typesOnly.unwrapEnums? = o.unwrapEnums?.map typesOnly := by
  cases left : o.left.type.underlying? <;> cases right : o.right.type.underlying? <;>
    simp [unwrapEnums?, unwrapEnum?, typesOnly, Value.runtime, op, left, right]

theorem next?_typesOnly : o.typesOnly.next? = o.next?.map typesOnly := by
  have selected : Handler.select o.typesOnly = Handler.select o := rfl
  rw [next?, next?, selected, unwrapEnums?_typesOnly]
  split <;> rfl

/-- The choice of a rule is a matter of types. -/
theorem settled_typesOnly : o.typesOnly.settled = o.settled.typesOnly :=
  settled_map typesOnly next?_typesOnly o

end Operation

namespace Solver

/-! ## Rule by rule -/

section Rules

variable (s : Solver) (o : Operation)

theorem refusals_shiftRule : (shiftRule o).refusals = [] := by
  unfold shiftRule
  dsimp only
  split
  · exact o.refusals_fold (.scalar .u64)
  · rw [Ruling.refusals_warn rfl]
    exact o.refusals_fold (.scalar .u64)

theorem refusals_logicalRule : (logicalRule o).refusals = (logicalRule o.typesOnly).refusals := by
  simp only [logicalRule, apply_ite Ruling.refusals, Operation.refusals_fold]
  rfl

/-- Several rules compare for equality, unless the operands cannot meet. -/
theorem refusals_equality (strangers : Bool) (signature : String) :
    (if strangers then o.incompatible
      else if o.op.isEquality then .typed .bool
      else o.undefinedFor signature).refusals =
    (if strangers then o.typesOnly.incompatible
      else if o.op.isEquality then .typed .bool
      else o.typesOnly.undefinedFor signature).refusals := by
  simp only [apply_ite Ruling.refusals, Operation.refusals_incompatible,
    Operation.refusals_undefinedFor, Ruling.refusals_typed]
  rfl

theorem refusals_pointerRule :
    (s.pointerRule o).refusals = (s.pointerRule o.typesOnly).refusals := by
  have placed : ∀ p : Operation,
      (if o.typesOnly.left.type.isPointer then o.typesOnly else p) =
        if o.left.type.isPointer then o.typesOnly else p := fun _ => rfl
  simp only [pointerRule, placed, apply_ite Ruling.refusals, Operation.refusals_incompatible,
    Operation.refusals_undefinedFor, Ruling.refusals_typed]
  cases o.left.type.isPointer <;> rfl

theorem refusals_nilRule : (s.nilRule o).refusals = (s.nilRule o.typesOnly).refusals := by
  unfold nilRule
  simp only [apply_ite Ruling.refusals]
  have op : o.typesOnly.op = o.op := rfl
  rw [op]
  cases o.op <;> rfl

theorem refusals_anyRule : (anyRule o).refusals = (anyRule o.typesOnly).refusals := by
  simp only [anyRule, apply_ite Ruling.refusals, Operation.refusals_undefinedFor,
    Ruling.refusals_typed]
  rfl

theorem refusals_booleanRule :
    (s.booleanRule o).refusals = (s.booleanRule o.typesOnly).refusals := by
  simp only [booleanRule, apply_ite Ruling.refusals, Operation.refusals_fold,
    Operation.refusals_incompatible, Operation.refusals_undefinedFor]
  rfl

theorem refusals_stringRule : (stringRule o).refusals = (stringRule o.typesOnly).refusals := by
  simp only [stringRule, apply_ite Ruling.refusals, Operation.refusals_fold,
    Operation.refusals_incompatible, Operation.refusals_undefinedFor]
  rfl

theorem refusals_integerRule :
    (s.integerRule o).refusals = (s.integerRule o.typesOnly).refusals := by
  simp only [integerRule, apply_ite Ruling.refusals, Operation.refusals_fold,
    refusals_shiftRule, Operation.refusals_incompatible, Operation.refusals_undefinedFor]
  rfl

/-- The one rule that refuses constants is that for the remainder of a float, which has to
be a whole number that is known. -/
theorem refusals_floatRule (rem : o.op ≠ .rem) :
    (s.floatRule o).refusals = (s.floatRule o.typesOnly).refusals := by
  have other : (o.op == .rem) = false := beq_eq_false_iff_ne.2 rem
  have other' : (o.typesOnly.op == .rem) = false := other
  simp only [floatRule, other, other', Bool.false_eq_true, if_false, apply_ite Ruling.refusals,
    Operation.refusals_fold, Operation.refusals_incompatible, Operation.refusals_undefinedFor]
  rfl

end Rules

/-- **What the errors of a ruling say is a matter of types**, unless it is on the remainder
of a float. -/
theorem refusals_settle (s : Solver) {o : Operation}
    (floats : o.op = .rem → o.either Descriptor.isFloat = false) :
    (s.settle o).refusals = (s.settle o.typesOnly).refusals := by
  have same : Handler.select o.typesOnly = Handler.select o := rfl
  unfold settle
  rw [same]
  cases selected : Handler.select o with
  | none => rfl
  | some handler =>
      cases handler with
      | logical => exact refusals_logicalRule o
      | function => exact refusals_equality o _ _
      | array => exact refusals_equality o _ _
      | slice => exact refusals_equality o _ _
      | pointer => exact refusals_pointerRule s o
      | enum => rfl
      | struct => exact refusals_equality o _ _
      | trait => exact refusals_equality o _ _
      | nil => exact refusals_nilRule s o
      | any => exact refusals_anyRule o
      | bool => exact refusals_booleanRule s o
      | str => exact refusals_stringRule o
      | float =>
          have float := Handler.either_of_select (p := Descriptor.isFloat) selected
            (by simp [Handler.priority])
          refine refusals_floatRule s o fun rem => ?_
          rw [floats rem] at float
          cases float
      | unsigned => exact refusals_integerRule s o
      | signed => exact refusals_integerRule s o

/-- The errors of a ruling say what they say of operands that are known only when the
program runs. -/
theorem refusals_ruling (s : Solver) {left right : Value} (operator : Operator)
    (remainder : operator.op = .rem →
      left.type.unwrap.isFloat = false ∧ right.type.unwrap.isFloat = false) :
    (s.ruling left right operator).refusals =
      (s.ruling (.runtime left.type) (.runtime right.type) (.detached operator.op)).refusals := by
  let o := operation left operator right
  have types : o.typesOnly.settled = o.settled.typesOnly := o.settled_typesOnly
  have floats : o.settled.op = .rem → o.settled.either Descriptor.isFloat = false := by
    intro rem
    rw [Operation.op_settled] at rem
    obtain ⟨leftFloat, rightFloat⟩ := remainder rem
    apply Operation.either_eq_false
    · refine Bool.eq_false_iff.2 fun float => ?_
      have behind := Descriptor.isFloat_unwrap float (aliasOf_settled_left left right operator)
      rw [unwrap_settled_left, leftFloat] at behind
      cases behind
    · refine Bool.eq_false_iff.2 fun float => ?_
      have behind := Descriptor.isFloat_unwrap float (aliasOf_settled_right left right operator)
      rw [unwrap_settled_right, rightFloat] at behind
      cases behind
  have runtime : operation (.runtime left.type) (.detached operator.op) (.runtime right.type) =
      o.typesOnly := rfl
  rw [ruling, ruling, runtime, types]
  exact refusals_settle s floats

/-- The errors that a solve reports. -/
def errors (s : Solver) (left : Value) (operator : Operator) (right : Value) (e : Evaluation) :
    List Diagnostic :=
  ((s.solve left operator right e).2.diagnostics.drop e.diagnostics.length).filter
    Diagnostic.isError

theorem errors_eq (s : Solver) (left : Value) (operator : Operator) (right : Value)
    (e : Evaluation) : s.errors left operator right e = (s.ruling left right operator).errors := by
  rw [errors, solve_diagnostics, List.drop_left, Ruling.errors]

/-- **Whether an operation is an error depends on types only.**  Operands of the same types
are refused with the same errors, of the same kinds and with the same messages, or are not
refused, whatever is known of them; the remainder of a float excepted.  So a constant can add
a warning and nothing else. -/
theorem solve_refusals (s : Solver) {left right left' right' : Value} {op : BinaryOp}
    (sameLeft : left.type = left'.type) (sameRight : right.type = right'.type)
    (remainder : op = .rem →
      left.type.unwrap.isFloat = false ∧ right.type.unwrap.isFloat = false)
    (span span' : Span) (e e' : Evaluation) :
    (s.errors left ⟨op, span⟩ right e).map Diagnostic.content =
      (s.errors left' ⟨op, span'⟩ right' e').map Diagnostic.content := by
  have remainder' : op = .rem →
      left'.type.unwrap.isFloat = false ∧ right'.type.unwrap.isFloat = false := by
    rwa [← sameLeft, ← sameRight]
  have first := refusals_ruling s ⟨op, span⟩ remainder
  have second := refusals_ruling s ⟨op, span'⟩ remainder'
  rw [errors_eq, errors_eq]
  rw [sameLeft, sameRight] at first
  exact first.trans second.symm

/-- A text behind an enum is not shifted by 3, in the words in which no text is shifted by any
number. -/
theorem solve_refusals_shift_text :
    ∃ left right : Value, left = .ofConstant (.enumeration "E" (.scalar .str)) (.str "x") ∧
      right = .uint .u8 3 ∧
      ((ofConfig .standard).errors left (.detached .shl) right .empty).map Diagnostic.content =
        [(.incompatibleTypes, "incompatible types: `str` and `u8`")] ∧
      ((ofConfig .standard).errors (.runtime left.type) (.detached .shl) (.runtime right.type)
        .empty).map Diagnostic.content =
          [(.incompatibleTypes, "incompatible types: `str` and `u8`")] := by
  have known : ((ofConfig .standard).errors
      (.ofConstant (.enumeration "E" (.scalar .str)) (.str "x")) (.detached .shl) (.uint .u8 3)
      .empty).map Diagnostic.content =
        [(.incompatibleTypes, "incompatible types: `str` and `u8`")] := by
    decide +kernel
  refine ⟨_, _, rfl, rfl, known, ?_⟩
  rw [← known]
  apply solve_refusals
  · rfl
  · rfl
  · intro rem
    cases rem

end Solver

end BinarySolver
