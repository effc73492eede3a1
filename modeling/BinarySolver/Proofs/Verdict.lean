/-
# BinarySolver.Proofs.Verdict -- all that a rule can rule

A settled operation is ruled on in one of nine ways, whatever the rule: it is refused
(once with its operands swapped), typed without looking at constants, folded, or
shifted.  `settle_verdict` says so for every operation, with the guards under which
each way is gone.  What holds of every ruling is then a case analysis on `Verdict`
that opens no rule.
-/
import BinarySolver.Proofs.Settle

namespace BinarySolver

set_option autoImplicit false

namespace BinaryOp

variable {op : BinaryOp}

theorem isComparison_of_isEquality (equality : op.isEquality = true) : op.isComparison = true := by
  cases op <;> first | rfl | cases equality

theorem yieldsBool_of_isComparison (comparison : op.isComparison = true) :
    op.yieldsBool = true := by
  rw [yieldsBool, comparison, Bool.true_or]

theorem yieldsBool_of_isEquality (equality : op.isEquality = true) : op.yieldsBool = true :=
  yieldsBool_of_isComparison (isComparison_of_isEquality equality)

theorem yieldsBool_of_isLogical (logical : op.isLogical = true) : op.yieldsBool = true := by
  rw [yieldsBool, logical, Bool.or_true]

theorem yieldsBool_of_isShift (shift : op.isShift = true) : op.yieldsBool = false := by
  cases op <;> first | rfl | cases shift

/-- Operators of which one only has a property are not the same. -/
theorem beq_eq_false_of_property {p : BinaryOp → Bool} {other : BinaryOp} (holds : p op = true)
    (fails : p other = false) : (op == other) = false := by
  rw [beq_eq_false_iff_ne]
  intro same
  rw [same, fails] at holds
  cases holds

theorem yieldsBool_eq_false_iff :
    op.yieldsBool = false ↔ op.isComparison = false ∧ op.isLogical = false := by
  rw [yieldsBool, Bool.or_eq_false_iff]

end BinaryOp

namespace Handler

variable {o : Operation} {h : Handler}

theorem isLogical_eq_false_of_select (selected : select o = some h) (kind : h ≠ .logical) :
    o.op.isLogical = false := by
  refine Bool.eq_false_iff.2 fun logical => kind ?_
  rw [select, if_pos logical] at selected
  cases selected
  rfl

/-- A rule other than that for logical operators is selected for what one of the operands
is: what is asked for the rule in the order of kinds. -/
theorem either_of_select {p : Descriptor → Bool} (selected : select o = some h)
    (entry : (h, p) ∈ priority) : o.either p = true := by
  unfold select at selected
  split at selected
  · cases selected
    simp [priority] at entry
  · obtain ⟨⟨h', q⟩, found, rfl⟩ := Option.map_eq_some_iff.1 selected
    have either : o.either q = true :=
      List.find?_some (p := fun entry : Handler × (Descriptor → Bool) => o.either entry.2) found
    -- nothing is asked twice for one rule
    have same : q = p := by
      have listed := List.mem_of_find?_eq_some found
      simp only at entry
      cases h' <;> simp [priority] at entry listed <;> rw [entry, listed]
    rwa [same] at either

theorem isLogical_of_select (selected : select o = some .logical) : o.op.isLogical = true := by
  unfold select at selected
  split at selected
  · assumption
  · obtain ⟨⟨h', p⟩, found, same⟩ := Option.map_eq_some_iff.1 selected
    have entry := List.mem_of_find?_eq_some found
    simp only at same
    subst same
    simp [priority] at entry

end Handler

namespace Solver

/-- The operations whose constants are folded for an operation: itself, with its
numbers made floats, or with its float made whole for a remainder. -/
inductive Recast (o : Operation) : Operation → Prop where
  | same : Recast o o
  | promoted : Recast o { o with left := promote o.left, right := promote o.right }
  | whole {p : Operation} : o.op = .rem → wholeRemainder? o = some p → Recast o p

/-- What can be ruled on a settled operation. -/
inductive Verdict (s : Solver) (o : Operation) : Ruling → Prop where
  | refused {kind : DiagnosticKind} (arguments : List String) (related : List Related) :
      kind.marksFailure = true → Verdict s o (o.refuse kind arguments related)
  /-- The rule for pointers refuses with the pointer on the left, where it was not. -/
  | swapped :
      o.left.type.isPointer = false → o.right.type.isPointer = true → s.meets o true = true →
      o.op.yieldsBool = false → Verdict s o (o.swap.undefinedFor o.right.type.signature)
  | compared : o.op.isComparison = true → Verdict s o (.typed .bool)
  /-- A pointer is moved by an integer, or two pointers are added or subtracted. -/
  | moved {type : Descriptor} :
      o.op = .add ∨ o.op = .sub → type.isPointer = true →
      type = o.left.type ∨ type = o.right.type → Verdict s o (.typed type)
  /-- The comparison with nil, known if both operands are. -/
  | known (b : Bool) : o.op.isEquality = true → Verdict s o (knownTruth o b)
  | truth {p : Operation} : Recast o p → o.op.yieldsBool = true → Verdict s o (p.fold .bool)
  | joined :
      o.op = .add → o.either Descriptor.isStr = true →
      o.left.type.category = o.right.type.category → Verdict s o (o.fold (.scalar .str))
  | computed {p : Operation} :
      Recast o p → o.left.type.isNumeric = true → o.right.type.isNumeric = true →
      o.op.yieldsBool = false → o.op.isShift = false → Verdict s o (p.fold (s.wider p))
  | shifted :
      o.op.isShift = true → o.left.type.isNumeric = true → o.right.type.isNumeric = true →
      Verdict s o (shiftRule o)

/-- A float beside an integer is made whole as a constant of the integer's type, or as
a `u64`, with a payload of the signedness of its new type. -/
theorem wholeOperand?_eq {integer known v : Value} (whole : integer.type.isInteger = true)
    (made : wholeOperand? integer known = some v) :
    ∃ type c, v = { known with type, constant := some c } ∧ known.isConst = true ∧
      (type = integer.type ∨ type = .scalar .u64) ∧
      ((∃ x, c = .int x ∧ type.isSignedInteger = true) ∨
        (∃ x, c = .uint x ∧ type.isUnsignedInteger = true)) := by
  unfold wholeOperand? at made
  cases const : known.isConst with
  | false => simp [const] at made
  | true =>
      simp only [const, Bool.not_true, Bool.false_eq_true, if_false] at made
      obtain ⟨c, -, made⟩ := Option.bind_eq_some_iff.1 made
      split at made
      · rename_i signed
        split at made
        · cases made
          exact ⟨_, _, rfl, rfl, .inl rfl, .inl ⟨_, rfl, signed⟩⟩
        · cases made
          exact ⟨_, _, rfl, rfl, .inr rfl, .inr ⟨_, rfl, by decide⟩⟩
        · cases made
      · rename_i signed
        have unsigned : integer.type.isUnsignedInteger = true := by
          rw [Descriptor.isInteger_eq_or, Bool.eq_false_iff.2 signed, Bool.false_or] at whole
          exact whole
        split at made
        · cases made
          exact ⟨_, _, rfl, rfl, .inl rfl, .inr ⟨_, rfl, unsigned⟩⟩
        · cases made
          exact ⟨_, _, rfl, rfl, .inl rfl, .inr ⟨_, rfl, unsigned⟩⟩
        · cases made

/-- A remainder is made whole on the side that is no integer. -/
theorem wholeRemainder?_eq {o p : Operation} (made : wholeRemainder? o = some p) :
    (o.left.type.isInteger = true ∧
        ∃ v, wholeOperand? o.left o.right = some v ∧ p = { o with right := v }) ∨
      (o.right.type.isInteger = true ∧
        ∃ v, wholeOperand? o.right o.left = some v ∧ p = { o with left := v }) := by
  unfold wholeRemainder? at made
  split at made
  · obtain ⟨v, whole, same⟩ := Option.map_eq_some_iff.1 made
    exact .inl ⟨‹_›, v, whole, same.symm⟩
  split at made
  · obtain ⟨v, whole, same⟩ := Option.map_eq_some_iff.1 made
    exact .inr ⟨‹_›, v, whole, same.symm⟩
  · cases made

theorem promote_eq (v : Value) : ∃ c, promote v = { v with constant := c } := by
  unfold promote
  split
  · exact ⟨_, rfl⟩
  · exact ⟨v.constant, rfl⟩

namespace Recast

variable {o p : Operation}

theorem operator_eq (recast : Recast o p) : p.operator = o.operator := by
  cases recast with
  | same => rfl
  | promoted => rfl
  | whole _ made =>
      rcases wholeRemainder?_eq made with ⟨-, v, -, rfl⟩ | ⟨-, v, -, rfl⟩ <;> rfl

theorem op_eq (recast : Recast o p) : p.op = o.op := by
  rw [Operation.op, recast.operator_eq, Operation.op]

/-- The types that are met are those of the operands and `u64`. -/
theorem types {P : Descriptor → Prop} (recast : Recast o p) (u64 : P (.scalar .u64))
    (left : P o.left.type) (right : P o.right.type) : P p.left.type ∧ P p.right.type := by
  cases recast with
  | same => exact ⟨left, right⟩
  | promoted =>
      obtain ⟨l, madeLeft⟩ := promote_eq o.left
      obtain ⟨r, madeRight⟩ := promote_eq o.right
      rw [madeLeft, madeRight]
      exact ⟨left, right⟩
  | whole _ made =>
      rcases wholeRemainder?_eq made with ⟨whole, v, operand, rfl⟩ | ⟨whole, v, operand, rfl⟩
      · obtain ⟨type, c, rfl, -, rfl | rfl, -⟩ := wholeOperand?_eq whole operand
        · exact ⟨left, left⟩
        · exact ⟨left, u64⟩
      · obtain ⟨type, c, rfl, -, rfl | rfl, -⟩ := wholeOperand?_eq whole operand
        · exact ⟨right, right⟩
        · exact ⟨u64, right⟩

/-- Numbers stay numbers. -/
theorem isNumeric (recast : Recast o p) (left : o.left.type.isNumeric = true)
    (right : o.right.type.isNumeric = true) :
    p.left.type.isNumeric = true ∧ p.right.type.isNumeric = true :=
  recast.types (P := (·.isNumeric = true)) (Descriptor.isNumeric_scalar .u64) left right

/-- No text comes in; one that is there stays, unless a remainder is made whole. -/
theorem text (recast : Recast o p) {x : String} (text : p.left.constant = some (.str x)) :
    o.op = .rem ∨ o.left.constant = some (.str x) := by
  cases recast with
  | same => exact .inr text
  | promoted =>
      refine .inr ?_
      simp only [promote] at text
      split at text
      · cases text
      · exact text
  | whole rem _ => exact .inl rem

end Recast

/-! ## Rule by rule -/

section Rules

variable (s : Solver) {o : Operation}

theorem undefinedFor_verdict (signature : String) : Verdict s o (o.undefinedFor signature) :=
  .refused _ _ rfl

theorem incompatible_verdict : Verdict s o o.incompatible :=
  .refused _ _ rfl

theorem logicalRule_verdict (logical : o.op.isLogical = true) : Verdict s o (logicalRule o) := by
  unfold logicalRule
  split
  · exact .truth .same (BinaryOp.yieldsBool_of_isLogical logical)
  · exact .refused _ _ rfl

/-- Several rules compare for equality, unless the operands cannot meet. -/
theorem equality_verdict (strangers : Bool) (signature : String) :
    Verdict s o
      (if strangers then o.incompatible
        else if o.op.isEquality then .typed .bool
        else o.undefinedFor signature) := by
  split
  · exact incompatible_verdict s
  split
  · exact .compared (BinaryOp.isComparison_of_isEquality ‹_›)
  · exact undefinedFor_verdict s _

theorem functionRule_verdict : Verdict s o (functionRule o) :=
  equality_verdict s _ _

theorem sequenceRule_verdict : Verdict s o (s.sequenceRule o) :=
  equality_verdict s _ _

theorem structRule_verdict : Verdict s o (structRule o) :=
  equality_verdict s _ _

theorem traitRule_verdict : Verdict s o (s.traitRule o) :=
  equality_verdict s _ _

theorem anyRule_verdict : Verdict s o (anyRule o) := by
  unfold anyRule
  split
  · exact .compared (BinaryOp.isComparison_of_isEquality ‹_›)
  · exact undefinedFor_verdict s _

theorem nilRule_verdict : Verdict s o (s.nilRule o) := by
  unfold nilRule
  split
  · exact incompatible_verdict s
  split
  · rename_i equal
    exact .known _ (by rw [equal]; rfl)
  · rename_i unequal
    exact .known _ (by rw [unequal]; rfl)
  · exact undefinedFor_verdict s _

theorem booleanRule_verdict : Verdict s o (s.booleanRule o) := by
  unfold booleanRule
  split
  · exact incompatible_verdict s
  split
  · exact .truth .same (BinaryOp.yieldsBool_of_isEquality ‹_›)
  · exact undefinedFor_verdict s _

theorem stringRule_verdict (text : o.either Descriptor.isStr = true) :
    Verdict s o (stringRule o) := by
  unfold stringRule
  split
  · exact incompatible_verdict s
  rename_i same
  split
  · rename_i add
    exact .joined (beq_iff_eq.1 add) text (by simpa using same)
  split
  · exact .truth .same (BinaryOp.yieldsBool_of_isEquality ‹_›)
  · exact undefinedFor_verdict s _

/-- With the pointer moved to the left, everything but the refusal looks at the
operator and at the pointer only. -/
theorem pointerRule_verdict (logical : o.op.isLogical = false)
    (pointer : o.either Descriptor.isPointer = true) : Verdict s o (s.pointerRule o) := by
  unfold pointerRule
  split
  · exact incompatible_verdict s
  rename_i meets
  cases left : o.left.type.isPointer with
  | true =>
      simp only [if_true]
      split
      · rename_i move
        exact .moved (by simpa using move) left (.inl rfl)
      split
      · exact .compared ‹_›
      · exact undefinedFor_verdict s _
  | false =>
      have right : o.right.type.isPointer = true := by
        simpa only [Operation.either, left, Bool.false_or] using pointer
      simp only [Bool.false_eq_true, if_false]
      split
      · rename_i move
        exact .moved (by simpa [Operation.op, Operation.swap] using move) right (.inr rfl)
      split
      · exact .compared ‹_›
      · rename_i move comparison
        have offset : isOffset o = false := by
          have still : (o.op == .add || o.op == .sub) = false := Bool.eq_false_iff.2 move
          rw [isOffset, still, Bool.false_and]
        refine .swapped left right ?_ ?_
        · simpa [offset] using meets
        · exact BinaryOp.yieldsBool_eq_false_iff.2 ⟨Bool.eq_false_iff.2 comparison, logical⟩

/-- Numbers that are neither compared nor shifted are folded for the wider type. -/
theorem integerRule_eq_fold (left : o.left.type.isNumeric = true)
    (right : o.right.type.isNumeric = true) (number : o.op.yieldsBool = false)
    (shift : o.op.isShift = false) : s.integerRule o = o.fold (s.wider o) := by
  have other : (o.op.isArithmetic || o.op == .rem || o.op.isBitwise) = true := by
    cases op : o.op <;> simp_all [BinaryOp.isShift, BinaryOp.yieldsBool, BinaryOp.isComparison,
      BinaryOp.isLogical, BinaryOp.isArithmetic, BinaryOp.isBitwise]
  unfold integerRule
  rw [left, right, shift, (BinaryOp.yieldsBool_eq_false_iff.1 number).1, other]
  rfl

theorem integerRule_eq_shiftRule (left : o.left.type.isNumeric = true)
    (right : o.right.type.isNumeric = true) (shift : o.op.isShift = true) :
    s.integerRule o = shiftRule o := by
  unfold integerRule
  rw [left, right, shift]
  rfl

/-- The rule for integers on operands recast for it. -/
theorem integerRule_verdict {p : Operation} (recast : Recast o p)
    (left : o.left.type.isNumeric = true) (right : o.right.type.isNumeric = true)
    (shift : o.op.isShift = true → p = o) (logical : o.op.isLogical = false) :
    Verdict s o (s.integerRule p) := by
  obtain ⟨leftNumber, rightNumber⟩ := recast.isNumeric left right
  have op := recast.op_eq
  cases shifts : o.op.isShift with
  | true =>
      rw [shift shifts, integerRule_eq_shiftRule s left right shifts]
      exact .shifted shifts left right
  | false =>
      cases comparison : o.op.isComparison with
      | true =>
          unfold integerRule
          rw [leftNumber, rightNumber, op, shifts, comparison]
          exact .truth recast (BinaryOp.yieldsBool_of_isComparison comparison)
      | false =>
          have number : o.op.yieldsBool = false :=
            BinaryOp.yieldsBool_eq_false_iff.2 ⟨comparison, logical⟩
          rw [integerRule_eq_fold s leftNumber rightNumber (op ▸ number) (op ▸ shifts)]
          exact .computed recast left right number shifts

/-- What the rule for integers does with operands that are given to it at once. -/
theorem integerRule_self_verdict (logical : o.op.isLogical = false) :
    Verdict s o (s.integerRule o) := by
  cases numbers : o.left.type.isNumeric && o.right.type.isNumeric with
  | false =>
      unfold integerRule
      rw [numbers]
      exact incompatible_verdict s
  | true =>
      obtain ⟨left, right⟩ := Bool.and_eq_true_iff.1 numbers
      exact integerRule_verdict s .same left right (fun _ => rfl) logical

theorem floatRule_verdict (logical : o.op.isLogical = false) : Verdict s o (s.floatRule o) := by
  unfold floatRule
  split
  · exact incompatible_verdict s
  rename_i numbers
  simp only [Bool.not_eq_true, Bool.not_eq_false', Bool.and_eq_true] at numbers
  obtain ⟨left, right⟩ := numbers
  split
  · rename_i rem
    rw [beq_iff_eq] at rem
    split
    · rename_i p made
      refine integerRule_verdict s (.whole rem made) left right (fun shift => ?_) logical
      rw [rem] at shift
      cases shift
    · exact undefinedFor_verdict s _
  split
  · exact undefinedFor_verdict s _
  rename_i rem other
  cases comparison : o.op.isComparison with
  | true => exact .truth .promoted (BinaryOp.yieldsBool_of_isComparison comparison)
  | false =>
      have arithmetic : o.op.isArithmetic = true := by simpa [comparison] using other
      refine .computed .promoted left right
        (BinaryOp.yieldsBool_eq_false_iff.2 ⟨comparison, logical⟩) ?_
      cases op : o.op <;> simp_all [BinaryOp.isShift, BinaryOp.isArithmetic]

end Rules

/-- **Every ruling on a settled operation is one of nine.** -/
theorem settle_verdict (s : Solver) (o : Operation) : Verdict s o (s.settle o) := by
  unfold settle
  cases selected : Handler.select o with
  | none => exact undefinedFor_verdict s _
  | some handler =>
      cases handler with
      | logical => exact logicalRule_verdict s (Handler.isLogical_of_select selected)
      | function => exact functionRule_verdict s
      | array => exact sequenceRule_verdict s
      | slice => exact sequenceRule_verdict s
      | pointer =>
          have pointer := Handler.either_of_select (p := Descriptor.isPointer) selected
            (by simp [Handler.priority])
          exact pointerRule_verdict s
            (Handler.isLogical_eq_false_of_select selected (by decide)) pointer
      | enum => exact undefinedFor_verdict s _
      | struct => exact structRule_verdict s
      | trait => exact traitRule_verdict s
      | nil => exact nilRule_verdict s
      | any => exact anyRule_verdict s
      | bool => exact booleanRule_verdict s
      | str =>
          have text := Handler.either_of_select (p := Descriptor.isStr) selected
            (by simp [Handler.priority])
          exact stringRule_verdict s text
      | float =>
          exact floatRule_verdict s (Handler.isLogical_eq_false_of_select selected (by decide))
      | unsigned =>
          exact integerRule_self_verdict s
            (Handler.isLogical_eq_false_of_select selected (by decide))
      | signed =>
          exact integerRule_self_verdict s
            (Handler.isLogical_eq_false_of_select selected (by decide))

end Solver

end BinarySolver
