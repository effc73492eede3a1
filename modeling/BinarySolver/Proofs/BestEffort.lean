/-
# BinarySolver.Proofs.BestEffort -- the value of a refused operation

A refused operation has a type and nothing else, and the type is `bool` if the operator
makes truth values, else that of the left operand.  There is one exception: where nil
stands on the left of a pointer, the rule for pointers has moved the pointer to the
left before it refuses, and the type is that of the right operand.
`solve_refused` says when that happens, and that it happens nowhere else.
-/
import BinarySolver.Proofs.Accounting

namespace BinarySolver

set_option autoImplicit false

namespace Descriptor

variable {l r d : Descriptor}

theorem startsWith_star_iff : d.startsWith '*' = true ↔ 0 < d.pointers := by
  unfold startsWith pointers
  cases d.signature.toList with
  | nil => simp
  | cons c cs =>
      by_cases star : c = '*'
      · simp [star]
      · simp [star]

theorem multi_of_elements? {ds : List Descriptor} (parts : d.elements? = some ds) :
    d.multi = true := by
  unfold elements? at parts
  split at parts
  · split at parts
    · assumption
    · cases parts
  · cases parts

/-- Of several values at once, only what stands behind a star is a pointer. -/
theorem isPointer_of_multi (several : d.multi = true) : d.isPointer = d.startsWith '*' := by
  rw [isPointer, isVoidptr, isA, isPlain, several]
  simp

theorem isPointer_congr (category : l.category = r.category) (signature : l.signature = r.signature)
    (multi : l.multi = r.multi) : l.isPointer = r.isPointer := by
  simp only [isPointer, isVoidptr, isA, isPlain, startsWith, category, signature, multi]

/-- Only nil meets a pointer without being one, unless `any` is given a place. -/
theorem isNil_of_structural {mode : Leniency} (strict : mode.ignoreAny = true)
    (meets : structural mode l r = true) (left : l.isPointer = false)
    (right : r.isPointer = true) (leftResolved : l.aliasOf = none)
    (rightResolved : r.aliasOf = none) : l.isNil = true := by
  have voidptr : l.isVoidptr = false := (Bool.or_eq_false_iff.1 left).2
  rw [structural] at meets
  simp only [resolve_of_aliasOf leftResolved, resolve_of_aliasOf rightResolved, strict, voidptr,
    left, Bool.not_true, Bool.false_and, Bool.and_false, Bool.or_self, Bool.false_eq_true,
    if_false] at meets
  split at meets
  · assumption
  split at meets
  · rename_i nil
    rw [isPointer_of_isNil nil] at right
    cases right
  split at meets
  · split at meets
    · rename_i ls rs leftParts rightParts
      rw [resolve_of_aliasOf leftResolved] at leftParts
      have stars : l.pointers = r.pointers := by
        simp only [Bool.and_eq_true, beq_iff_eq] at meets
        exact meets.1.1
      rw [isPointer_of_multi (multi_of_elements? rightParts), startsWith_star_iff, ← stars,
        ← startsWith_star_iff, ← isPointer_of_multi (multi_of_elements? leftParts), left] at right
      cases right
    · cases meets
  · rename_i several
    simp only [Bool.and_eq_true, beq_iff_eq] at meets
    simp only [Bool.or_eq_true, not_or, Bool.not_eq_true] at several
    rw [← isPointer_congr meets.1 meets.2 (several.1.trans several.2.symm), left] at right
    cases right

/-- Nil meets every pointer. -/
theorem structural_nil_pointer {mode : Leniency} (strict : mode.ignoreAny = true)
    (left : l.isNil = true) (right : r.isPointer = true) (leftResolved : l.aliasOf = none)
    (rightResolved : r.aliasOf = none) : structural mode l r = true := by
  rw [structural]
  simp only [resolve_of_aliasOf leftResolved, resolve_of_aliasOf rightResolved, strict, left,
    isNullable, right, Bool.not_true, Bool.false_and, Bool.or_true, Bool.true_or,
    Bool.false_eq_true, if_false, if_true]

theorem voided_of_isPointer (pointer : d.isPointer = true) : d.voided = d :=
  voided_of_isVoid_eq_false (isA_of_isPointer pointer (by decide))

theorem voided_of_isNil (nil : d.isNil = true) : d.voided = d := by
  obtain ⟨category, plain⟩ := isA_iff.1 nil
  refine voided_of_isVoid_eq_false ?_
  rw [isVoid, isA_of_isPlain plain, category]
  rfl

end Descriptor

namespace Operation

/-- Nil stands on the left of a pointer. -/
def NilBeforePointer (o : Operation) : Prop :=
  o.left.type.isNil = true ∧ o.right.type.isPointer = true

theorem outcome_undefinedFor_swap {o : Operation} (number : o.op.yieldsBool = false)
    (signature : String) : (o.swap.undefinedFor signature).outcome = .typed o.right.type := by
  have swapped : o.swap.op.yieldsBool = false := number
  simp only [undefinedFor, refuse, bestEffort, swapped, Bool.false_eq_true, if_false]
  rfl

end Operation

namespace Handler

/-- Nil and a pointer select the rule for pointers. -/
theorem select_of_nilBeforePointer {o : Operation} (logical : o.op.isLogical = false)
    (operands : o.NilBeforePointer) : select o = some .pointer := by
  obtain ⟨nil, pointer⟩ := operands
  obtain ⟨category, plain⟩ := Descriptor.isA_iff.1 nil
  have functions : o.either Descriptor.isFunc = false := by
    rw [Operation.either, Descriptor.isFunc, Descriptor.isFunc, Descriptor.isA_of_isPlain plain,
      category, Descriptor.isA_of_isPointer pointer (by decide)]
    rfl
  have bareLeft := Descriptor.startsWith_bracket_of_isPlain plain
  have bareRight := Descriptor.startsWith_bracket_of_isPointer pointer
  have arrays : o.either Descriptor.isArray = false :=
    Operation.either_eq_false (Descriptor.isArray_of_startsWith bareLeft)
      (Descriptor.isArray_of_startsWith bareRight)
  have slices : o.either Descriptor.isSlice = false :=
    Operation.either_eq_false (Descriptor.isSlice_of_startsWith bareLeft)
      (Descriptor.isSlice_of_startsWith bareRight)
  have pointers : o.either Descriptor.isPointer = true := by
    rw [Operation.either, pointer, Bool.or_true]
  simp [select, logical, priority, functions, arrays, slices, pointers]

end Handler

namespace Solver

/-- Nil and a pointer are ruled on with the pointer on the left. -/
theorem settle_of_nilBeforePointer (config : Config) {o : Operation}
    (logical : o.op.isLogical = false) (operands : o.NilBeforePointer)
    (left : o.left.type.aliasOf = none) (right : o.right.type.aliasOf = none) :
    (ofConfig config).settle o =
      if o.op == .add || o.op == .sub then .typed o.right.type
      else if o.op.isComparison then .typed .bool
      else o.swap.undefinedFor o.right.type.signature := by
  have meets : (ofConfig config).meets o true = true :=
    Descriptor.structural_nil_pointer rfl operands.1 operands.2 left right
  have offset : isOffset o = false := by
    rw [isOffset, Operation.either, Descriptor.isInteger_of_isNil operands.1,
      Descriptor.isInteger_of_isPointer operands.2, Bool.or_self, Bool.and_false]
  rw [settle, Handler.select_of_nilBeforePointer logical operands]
  simp only [pointerRule, offset, meets, Descriptor.isPointer_of_isNil operands.1, Bool.not_true,
    Bool.and_false, Bool.false_eq_true, if_false]
  rfl

/-- An operation is refused with the type of its left operand, unless the rule for
pointers has swapped the operands. -/
theorem Verdict.outcome_of_error {s : Solver} {o : Operation} {r : Ruling}
    (verdict : Verdict s o r) (error : ∃ d ∈ r.diagnostics, d.severity = .error) :
    r.outcome = o.bestEffort ∨
      (o.left.type.isPointer = false ∧ o.right.type.isPointer = true ∧ s.meets o true = true ∧
        o.op.yieldsBool = false ∧ r.outcome = .typed o.right.type) := by
  obtain ⟨d, member, severity⟩ := error
  have warned : ∀ {p : Operation} {type : Descriptor}, d ∈ (p.fold type).diagnostics → False := by
    intro p type member
    rcases p.diagnostics_fold type with quiet | ⟨-, warned⟩
    · rw [quiet] at member
      cases member
    · rw [warned, List.mem_singleton] at member
      rw [member] at severity
      cases severity
  cases verdict with
  | refused => exact .inl rfl
  | swapped left right meets number =>
      exact .inr ⟨left, right, meets, number, Operation.outcome_undefinedFor_swap number _⟩
  | compared => cases member
  | moved => cases member
  | known => cases member
  | truth => exact (warned member).elim
  | joined => exact (warned member).elim
  | computed => exact (warned member).elim
  | shifted shift =>
      rw [diagnostics_shiftRule shift] at member
      split at member
      · cases member
      · rw [List.mem_singleton] at member
        rw [member] at severity
        cases severity

/-- What an operation whose types meet by structure is refused with: the type of the
right operand if nil stands before a pointer, else the best effort. -/
theorem outcome_of_refused (config : Config) {o : Operation}
    (left : o.left.type.aliasOf = none) (right : o.right.type.aliasOf = none)
    (error : ∃ d ∈ ((ofConfig config).settle o).diagnostics, d.severity = .error) :
    ((o.op.yieldsBool = false ∧ o.NilBeforePointer) ∧
        ((ofConfig config).settle o).outcome = .typed o.right.type) ∨
      (¬ (o.op.yieldsBool = false ∧ o.NilBeforePointer) ∧
        ((ofConfig config).settle o).outcome = o.bestEffort) := by
  by_cases exception : o.op.yieldsBool = false ∧ o.NilBeforePointer
  · refine .inl ⟨exception, ?_⟩
    obtain ⟨number, operands⟩ := exception
    obtain ⟨comparison, logical⟩ := BinaryOp.yieldsBool_eq_false_iff.1 number
    rw [settle_of_nilBeforePointer config logical operands left right, comparison]
    split
    · rfl
    · exact Operation.outcome_undefinedFor_swap number _
  · refine .inr ⟨exception, ?_⟩
    rcases (settle_verdict (ofConfig config) o).outcome_of_error error with
      best | ⟨leftPointer, rightPointer, meets, number, -⟩
    · exact best
    · have nil : o.left.type.isNil = true :=
        Descriptor.isNil_of_structural rfl meets leftPointer rightPointer left right
      exact absurd ⟨number, nil, rightPointer⟩ exception

/-- **The value of a refused operation.**  It has no constant, and its type is the best
effort -- `bool` if the operator makes truth values, else the type of the left operand,
taken from behind its alias and from behind those enums that stood in the way -- with
one exact exception: where nil stands before a pointer there, the type is the pointer. -/
theorem solve_refused (config : Config) (left right : Value) (operator : Operator) (e : Evaluation)
    (refused : ∃ new, ((ofConfig config).solve left operator right e).2.diagnostics =
        e.diagnostics ++ new ∧ ∃ d ∈ new, d.severity = .error) :
    let v := ((ofConfig config).solve left operator right e).1
    let o := (operation left operator right).settled
    (v.constant = none ∧ v.initializer = none ∧ v.isConst = false) ∧
      left.type.resolve.StandsFor o.left.type ∧ right.type.resolve.StandsFor o.right.type ∧
      (v.type = (if operator.op.yieldsBool then Descriptor.bool else o.left.type.voided) ↔
        ¬ (operator.op.yieldsBool = false ∧ o.NilBeforePointer)) ∧
      (operator.op.yieldsBool = false → o.NilBeforePointer → v.type = o.right.type) := by
  intro v o
  have leftResolved := aliasOf_settled_left left right operator
  have rightResolved := aliasOf_settled_right left right operator
  have error : ∃ d ∈ ((ofConfig config).settle o).diagnostics, d.severity = .error := by
    obtain ⟨new, collected, error⟩ := refused
    rw [solve_diagnostics, List.append_cancel_left_eq] at collected
    exact collected ▸ error
  have op : o.op = operator.op := Operation.op_settled _
  have value : v = finish ((ofConfig config).settle o).outcome (left.isConst && right.isConst)
      operator.span := solve_value ..
  obtain ⟨leftType, rightType, settled, standsLeft, standsRight⟩ :=
    (operation left operator right).settled_eq
  have stands : left.type.resolve.StandsFor o.left.type ∧
      right.type.resolve.StandsFor o.right.type := by
    rw [show o = _ from settled]
    exact ⟨standsLeft, standsRight⟩
  rcases outcome_of_refused config leftResolved rightResolved error with
    ⟨⟨number, operands⟩, outcome⟩ | ⟨usual, outcome⟩
  · have pointer : v = (Value.runtime o.right.type).withSpan operator.span := by
      rw [value, outcome, finish_of_constant_eq_none rfl]
      exact congrArg (fun d => (Value.runtime d).withSpan operator.span)
        (Descriptor.voided_of_isPointer operands.2)
    rw [op] at number
    rw [pointer]
    refine ⟨⟨rfl, rfl, rfl⟩, stands.1, stands.2, ⟨fun same => ?_, fun none => ?_⟩, fun _ _ => rfl⟩
    · rw [number] at same
      have both : o.right.type = o.left.type :=
        (same : o.right.type = o.left.type.voided).trans (Descriptor.voided_of_isNil operands.1)
      have nil := Descriptor.isPointer_of_isNil operands.1
      rw [← both, operands.2] at nil
      cases nil
    · exact absurd ⟨number, operands⟩ none
  · have best : v = (Value.runtime
        (if operator.op.yieldsBool then Descriptor.bool else o.left.type.voided)).withSpan
          operator.span := by
      rw [value, outcome, finish_of_constant_eq_none rfl, Operation.bestEffort, op]
      cases operator.op.yieldsBool <;> rfl
    rw [op] at usual
    rw [best]
    exact ⟨⟨rfl, rfl, rfl⟩, stands.1, stands.2, ⟨fun _ => usual, fun _ => rfl⟩,
      fun number operands => absurd ⟨number, operands⟩ usual⟩

/-- Nil before an enum of pointers is the exception as well. -/
theorem solve_refused_nil_rem_enum :
    (∃ new, ((ofConfig .standard).solve .nil (.detached .rem)
          (.runtime (.enumeration "E" (.pointerTo (.scalar .i32)))) .empty).2.diagnostics =
        Evaluation.empty.diagnostics ++ new ∧ ∃ d ∈ new, d.severity = .error) ∧
      ((ofConfig .standard).solve .nil (.detached .rem)
        (.runtime (.enumeration "E" (.pointerTo (.scalar .i32)))) .empty).1.type =
          .pointerTo (.scalar .i32) := by
  have refused : ∃ new, ((ofConfig .standard).solve .nil (.detached .rem)
          (.runtime (.enumeration "E" (.pointerTo (.scalar .i32)))) .empty).2.diagnostics =
        Evaluation.empty.diagnostics ++ new ∧ ∃ d ∈ new, d.severity = .error :=
    ⟨[.report .operatorNotForType .detached ["%", "*i32"] []], by decide +kernel, _, .head _, rfl⟩
  have settled : (operation .nil (.detached .rem)
      (.runtime (.enumeration "E" (.pointerTo (.scalar .i32))))).settled =
        operation .nil (.detached .rem) (.runtime (.pointerTo (.scalar .i32))) := by
    rw [Operation.settled_of_next? (p := operation .nil (.detached .rem)
      (.runtime (.pointerTo (.scalar .i32)))) (by rfl)]
    exact Operation.settled_of_next?_eq_none (by rfl)
  have operands : (operation .nil (.detached .rem)
      (.runtime (.enumeration "E" (.pointerTo (.scalar .i32))))).settled.NilBeforePointer := by
    rw [settled]
    exact ⟨by rfl, by rfl⟩
  have type := (solve_refused .standard .nil _ (.detached .rem) .empty refused).2.2.2.2 rfl operands
  rw [settled] at type
  exact ⟨refused, type.trans (by rfl)⟩

/-- The product of nil and a pointer is refused with the type of the right operand. -/
theorem nil_mul_pointer_keeps_right_type :
    (∃ d, ((ofConfig .standard).solve .nil (.detached .mul)
          (.runtime (.pointerTo (.scalar .i32))) .empty).2.diagnostics = [d] ∧
        d.severity = .error) ∧
      ((ofConfig .standard).solve .nil (.detached .mul)
        (.runtime (.pointerTo (.scalar .i32))) .empty).1.type = .pointerTo (.scalar .i32) ∧
      ((ofConfig .standard).solve .nil (.detached .mul)
        (.runtime (.pointerTo (.scalar .i32))) .empty).1.type ≠
          (if BinaryOp.mul.yieldsBool then Descriptor.bool
            else (operation .nil (.detached .mul)
              (.runtime (.pointerTo (.scalar .i32)))).settled.left.type.voided) := by
  have type : ((ofConfig .standard).solve .nil (.detached .mul)
      (.runtime (.pointerTo (.scalar .i32))) .empty).1.type = .pointerTo (.scalar .i32) := by
    with_unfolding_all rfl
  have settled : (operation .nil (.detached .mul) (.runtime (.pointerTo (.scalar .i32)))).settled =
      operation .nil (.detached .mul) (.runtime (.pointerTo (.scalar .i32))) :=
    Operation.settled_of_next?_eq_none (by rfl)
  refine ⟨⟨.report .operatorNotForType .detached ["*", "*i32"] [], by decide +kernel, rfl⟩,
    type, ?_⟩
  rw [type, settled]
  intro same
  have signatures := congrArg Descriptor.signature same
  exact absurd signatures (by decide +kernel)

end Solver

end BinarySolver
