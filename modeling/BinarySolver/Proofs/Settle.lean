/-
# BinarySolver.Proofs.Settle -- where the choice of a rule ends

Choosing a rule takes types from behind enums until a rule other than that for
enums is met.  `Operation.settled` is the operation met there, and `Solver.settle`
rules on it without choosing again, so that what holds of every ruling is shown by
looking at `settle` alone: `outcome_dispatch` and `diagnostics_dispatch` carry it over.

The operands of the settled operation are the given ones, some of them retyped by
what their enums stand for (`settled_eq`).  `Descriptor.unwrap` is the type behind
all aliases and enums, which retyping does not change (`StandsFor.unwrap_eq`).
-/
import BinarySolver.Proofs.Kind

namespace BinarySolver

set_option autoImplicit false

namespace Descriptor

variable {d e u : Descriptor}

/-! ## Aliases -/

theorem aliasOf_resolve (d : Descriptor) : d.resolve.aliasOf = none := by
  fun_induction resolve d with
  | case1 _ _ _ _ _ _ _ _ ih => exact ih
  | case2 => rfl

theorem resolve_of_aliasOf (named : d.aliasOf = none) : d.resolve = d := by
  obtain ⟨category, signature, aliasOf, payload, multi, span⟩ := d
  subst named
  rw [resolve]

theorem resolve_resolve (d : Descriptor) : d.resolve.resolve = d.resolve :=
  resolve_of_aliasOf (aliasOf_resolve d)

/-! ## Enums -/

theorem isEnum_of_underlying? (behind : d.underlying? = some u) : d.isEnum = true := by
  unfold underlying? at behind
  split at behind
  · split at behind
    · assumption
    · cases behind
  · cases behind

theorem size_underlying?_lt (behind : d.underlying? = some u) : u.size < d.size := by
  have parts := sizePayload_lt d
  unfold underlying? at behind
  split at behind
  · rename_i payload
    split at behind
    · cases behind
      rwa [payload, sizePayload] at parts
    · cases behind
  · cases behind

theorem underlying?_of_isEnum_eq_false (other : d.isEnum = false) : d.underlying? = none := by
  cases behind : d.underlying? with
  | none => rfl
  | some u =>
      rw [isEnum_of_underlying? behind] at other
      cases other

/-- The type behind all aliases and enums. -/
def unwrap (d : Descriptor) : Descriptor :=
  match _h : d.resolve.underlying? with
  | some u => u.unwrap
  | none => d.resolve
termination_by d.size
decreasing_by exact Nat.lt_of_lt_of_le (size_underlying?_lt _h) (size_resolve_le d)

theorem unwrap_of_underlying? (behind : d.resolve.underlying? = some u) : d.unwrap = u.unwrap := by
  rw [unwrap]
  split
  · rename_i v other
    rw [behind] at other
    cases other
    rfl
  · rename_i other
    rw [behind] at other
    cases other

theorem unwrap_of_underlying?_eq_none (bare : d.resolve.underlying? = none) :
    d.unwrap = d.resolve := by
  rw [unwrap]
  split
  · rename_i v other
    rw [bare] at other
    cases other
  · rfl

theorem unwrap_resolve (d : Descriptor) : d.resolve.unwrap = d.unwrap := by
  cases behind : d.resolve.underlying? with
  | none =>
      rw [unwrap_of_underlying?_eq_none behind,
        unwrap_of_underlying?_eq_none (by rwa [resolve_resolve]), resolve_resolve]
  | some u =>
      rw [unwrap_of_underlying? behind, unwrap_of_underlying? (by rwa [resolve_resolve])]

theorem aliasOf_unwrap (d : Descriptor) : d.unwrap.aliasOf = none := by
  fun_induction unwrap d with
  | case1 _ _ _ ih => exact ih
  | case2 d _ => exact aliasOf_resolve d

/-- What is no alias and no enum stands for itself. -/
theorem unwrap_of_isEnum_eq_false (other : d.isEnum = false) (resolved : d.aliasOf = none) :
    d.unwrap = d := by
  have plain := resolve_of_aliasOf resolved
  rw [unwrap_of_underlying?_eq_none (by rw [plain, underlying?_of_isEnum_eq_false other]), plain]

theorem unwrap_of_isNumeric (number : d.isNumeric = true) (resolved : d.aliasOf = none) :
    d.unwrap = d :=
  unwrap_of_isEnum_eq_false (isA_of_isNumeric number rfl) resolved

theorem isFloat_unwrap (float : d.isFloat = true) (resolved : d.aliasOf = none) :
    d.unwrap.isFloat = true := by
  have number : d.isNumeric = true := by
    rw [isNumeric_eq_or, float, Bool.or_true]
  rwa [unwrap_of_isNumeric number resolved]

theorem unwrap_scalar (c : Category) : (scalar c).unwrap = scalar c := by
  have plain : (scalar c).resolve = scalar c := resolve_of_aliasOf rfl
  rw [unwrap_of_underlying?_eq_none (by rw [plain]; rfl), plain]

/-- A type that can be the type of a value: of a void type its plain name is left. -/
def voided (d : Descriptor) : Descriptor :=
  if d.isVoid then { d with signature := d.category.name } else d

theorem voided_of_isVoid_eq_false (bare : d.isVoid = false) : d.voided = d := by
  rw [voided, bare]
  rfl

/-- `d.StandsFor e`: `e` is `d` or a type behind enums that begin with `d`. -/
inductive StandsFor : Descriptor → Descriptor → Prop where
  | self (d : Descriptor) : StandsFor d d
  | behind {d u e : Descriptor} :
      d.underlying? = some u → StandsFor u.resolve e → StandsFor d e

/-- Going behind enums meets resolved types only. -/
theorem StandsFor.aliasOf_eq (stands : d.StandsFor e) (resolved : d.aliasOf = none) :
    e.aliasOf = none := by
  induction stands with
  | self => exact resolved
  | behind _ _ ih => exact ih (aliasOf_resolve _)

theorem StandsFor.unwrap_eq (stands : d.StandsFor e) (resolved : d.aliasOf = none) :
    e.unwrap = d.unwrap := by
  induction stands with
  | self => rfl
  | behind enum _ ih =>
      have plain := resolve_of_aliasOf resolved
      rw [ih (aliasOf_resolve _), unwrap_resolve]
      exact (unwrap_of_underlying? (by rwa [plain])).symm

end Descriptor

namespace Operation

variable {o p : Operation}

/-- The operation that is chosen for next, if the rule for enums puts another one in
the place of this one. -/
def next? (o : Operation) : Option Operation :=
  if Handler.select o = some .enum then o.unwrapEnums? else none

theorem unwrapEnums?_of_next? (next : o.next? = some p) : o.unwrapEnums? = some p := by
  unfold next? at next
  split at next
  · exact next
  · cases next

/-- The operation at which the choice ends. -/
def settled (o : Operation) : Operation :=
  match _h : o.next? with
  | some p => p.settled
  | none => o
termination_by o.size
decreasing_by exact size_unwrapEnums?_lt (unwrapEnums?_of_next? _h)

theorem settled_of_next? (next : o.next? = some p) : o.settled = p.settled := by
  rw [settled]
  split
  · rename_i q other
    rw [next] at other
    cases other
    rfl
  · rename_i other
    rw [next] at other
    cases other

theorem settled_of_next?_eq_none (last : o.next? = none) : o.settled = o := by
  rw [settled]
  split
  · rename_i q other
    rw [last] at other
    cases other
  · rfl

/-- What every choice respects, the end of the choice respects. -/
theorem settled_map (f : Operation → Operation) (next : ∀ o, (f o).next? = o.next?.map f)
    (o : Operation) : (f o).settled = f o.settled := by
  fun_induction settled o with
  | case1 o p chosen ih =>
      have mapped : (f o).next? = some (f p) := by
        rw [next, chosen]
        rfl
      rw [settled_of_next? mapped, ih]
  | case2 o last =>
      apply settled_of_next?_eq_none
      rw [next, last]
      rfl

/-- Numbers do not stand for other types: the choice ends where it begins. -/
theorem settled_of_isNumeric (left : o.left.type.isNumeric = true)
    (right : o.right.type.isNumeric = true) : o.settled = o := by
  refine settled_of_next?_eq_none ?_
  unfold next?
  split
  · rename_i enum
    cases logical : o.op.isLogical with
    | true =>
        rw [Handler.select, logical] at enum
        cases enum
    | false =>
        rw [Handler.select_numbers logical left right] at enum
        split at enum
        · cases enum
        split at enum <;> cases enum
  · rfl

/-- The operation with its operands given other types. -/
def retype (o : Operation) (left right : Descriptor) : Operation :=
  { o with left := { o.left with type := left }, right := { o.right with type := right } }

/-- Taking types from behind enums retypes the operands and does nothing else. -/
theorem unwrapEnums?_eq (unwrapped : o.unwrapEnums? = some p) :
    ∃ left right, p = o.retype left right ∧
      (left = o.left.type ∨ ∃ u, o.left.type.underlying? = some u ∧ left = u.resolve) ∧
      (right = o.right.type ∨ ∃ u, o.right.type.underlying? = some u ∧ right = u.resolve) := by
  unfold unwrapEnums? unwrapEnum? at unwrapped
  cases left : o.left.type.underlying? with
  | none =>
      cases right : o.right.type.underlying? with
      | none => simp [left, right] at unwrapped
      | some v =>
          simp only [left, right, Option.map_none, Option.map_some, Option.some.injEq,
            Option.getD_none, Option.getD_some] at unwrapped
          exact ⟨_, v.resolve, unwrapped.symm, .inl rfl, .inr ⟨v, rfl, rfl⟩⟩
  | some u =>
      cases right : o.right.type.underlying? with
      | none =>
          simp only [left, right, Option.map_none, Option.map_some, Option.some.injEq,
            Option.getD_none, Option.getD_some] at unwrapped
          exact ⟨u.resolve, _, unwrapped.symm, .inr ⟨u, rfl, rfl⟩, .inl rfl⟩
      | some v =>
          simp only [left, right, Option.map_some, Option.some.injEq,
            Option.getD_some] at unwrapped
          exact ⟨u.resolve, v.resolve, unwrapped.symm, .inr ⟨u, rfl, rfl⟩, .inr ⟨v, rfl, rfl⟩⟩

/-- The settled operation is the given one, its operands retyped by what the types
stand for. -/
theorem settled_eq (o : Operation) :
    ∃ left right, o.settled = o.retype left right ∧
      o.left.type.StandsFor left ∧ o.right.type.StandsFor right := by
  fun_induction settled o with
  | case1 o p next ih =>
      obtain ⟨l, r, rfl, left, right⟩ := unwrapEnums?_eq (unwrapEnums?_of_next? next)
      obtain ⟨l', r', settled, standsLeft, standsRight⟩ := ih
      refine ⟨l', r', settled, ?_, ?_⟩
      · rcases left with same | ⟨u, enum, same⟩
        · exact same ▸ standsLeft
        · exact .behind enum (same ▸ standsLeft)
      · rcases right with same | ⟨u, enum, same⟩
        · exact same ▸ standsRight
        · exact .behind enum (same ▸ standsRight)
  | case2 o => exact ⟨o.left.type, o.right.type, rfl, .self _, .self _⟩

theorem operator_settled (o : Operation) : o.settled.operator = o.operator := by
  obtain ⟨_, _, settled, _⟩ := o.settled_eq
  rw [settled, retype]

theorem op_settled (o : Operation) : o.settled.op = o.op := by
  rw [op, operator_settled, op]

end Operation

namespace Solver

/-- The ruling of the rule that an operation selects; an enum behind which no type is
taken is refused. -/
def settle (s : Solver) (o : Operation) : Ruling :=
  match Handler.select o with
  | none => o.undefinedFor o.left.type.signature
  | some .logical => logicalRule o
  | some .function => functionRule o
  | some .array | some .slice => s.sequenceRule o
  | some .pointer => s.pointerRule o
  | some .enum => o.undefinedFor (o.signatureOf Descriptor.isEnum)
  | some .struct => structRule o
  | some .trait => s.traitRule o
  | some .nil => s.nilRule o
  | some .any => anyRule o
  | some .bool => s.booleanRule o
  | some .str => stringRule o
  | some .float => s.floatRule o
  | some .unsigned | some .signed => s.integerRule o

/-- Two integers select the rule for integers. -/
theorem settle_integers (s : Solver) {o : Operation} (logical : o.op.isLogical = false)
    (left : o.left.type.isInteger = true) (right : o.right.type.isInteger = true) :
    s.settle o = s.integerRule o := by
  have floats : o.either Descriptor.isFloat = false :=
    Operation.either_eq_false (Descriptor.isFloat_of_isInteger left)
      (Descriptor.isFloat_of_isInteger right)
  unfold settle
  rw [Handler.select_numbers logical (Descriptor.isNumeric_of_isInteger left)
    (Descriptor.isNumeric_of_isInteger right), floats]
  cases o.either Descriptor.isUnsignedInteger <;> rfl

/-- Two numbers one of which is a float select the rule for floats. -/
theorem settle_floats (s : Solver) {o : Operation} (logical : o.op.isLogical = false)
    (left : o.left.type.isNumeric = true) (right : o.right.type.isNumeric = true)
    (float : o.either Descriptor.isFloat = true) : s.settle o = s.floatRule o := by
  unfold settle
  rw [Handler.select_numbers logical left right, float]
  rfl

/-- One choice: the ruling is that on the next operation, or the rule is applied. -/
theorem dispatch_eq (s : Solver) (o : Operation) :
    s.dispatch o =
      Ruling.trace (.dispatched o.op o.left.type.signature o.right.type.signature
        (Handler.select o)) ((o.next?.map s.dispatch).getD (s.settle o)) := by
  rw [dispatch]
  congr 1
  unfold Operation.next? settle
  cases Handler.select o with
  | none => rfl
  | some handler =>
      cases handler with
      | enum =>
          -- the match around the recursive call keeps its equation, so `cases` does not apply
          simp only [if_true]
          split
          · rename_i p unwrapped
            rw [unwrapped]
            rfl
          · rename_i unwrapped
            rw [unwrapped]
            rfl
      | _ => rfl

/-- What holds of every ruling is a matter of settled operations. -/
theorem outcome_dispatch (s : Solver) (o : Operation) :
    (s.dispatch o).outcome = (s.settle o.settled).outcome := by
  fun_induction Operation.settled o with
  | case1 o p next ih =>
      rw [dispatch_eq, next]
      exact ih
  | case2 o last =>
      rw [dispatch_eq, last]
      rfl

theorem diagnostics_dispatch (s : Solver) (o : Operation) :
    (s.dispatch o).diagnostics = (s.settle o.settled).diagnostics := by
  fun_induction Operation.settled o with
  | case1 o p next ih =>
      rw [dispatch_eq, next]
      exact ih
  | case2 o last =>
      rw [dispatch_eq, last]
      rfl

/-! ## Settled operands -/

section Operands

variable (left right : Value) (operator : Operator)

/-- A settled operand is the given one with a type that stands behind its enums. -/
theorem settled_left : ∃ type, (operation left operator right).settled.left = { left with type } ∧
    left.type.resolve.StandsFor type := by
  obtain ⟨l, r, settled, stands, -⟩ := (operation left operator right).settled_eq
  exact ⟨l, congrArg Operation.left settled, stands⟩

theorem settled_right :
    ∃ type, (operation left operator right).settled.right = { right with type } ∧
      right.type.resolve.StandsFor type := by
  obtain ⟨l, r, settled, -, stands⟩ := (operation left operator right).settled_eq
  exact ⟨r, congrArg Operation.right settled, stands⟩

theorem aliasOf_settled_left :
    (operation left operator right).settled.left.type.aliasOf = none := by
  obtain ⟨type, settled, stands⟩ := settled_left left right operator
  rw [settled]
  exact stands.aliasOf_eq (Descriptor.aliasOf_resolve _)

theorem aliasOf_settled_right :
    (operation left operator right).settled.right.type.aliasOf = none := by
  obtain ⟨type, settled, stands⟩ := settled_right left right operator
  rw [settled]
  exact stands.aliasOf_eq (Descriptor.aliasOf_resolve _)

theorem unwrap_settled_left :
    (operation left operator right).settled.left.type.unwrap = left.type.unwrap := by
  obtain ⟨type, settled, stands⟩ := settled_left left right operator
  rw [settled]
  exact (stands.unwrap_eq (Descriptor.aliasOf_resolve _)).trans (Descriptor.unwrap_resolve _)

theorem unwrap_settled_right :
    (operation left operator right).settled.right.type.unwrap = right.type.unwrap := by
  obtain ⟨type, settled, stands⟩ := settled_right left right operator
  rw [settled]
  exact (stands.unwrap_eq (Descriptor.aliasOf_resolve _)).trans (Descriptor.unwrap_resolve _)

end Operands

/-! ## Finishing -/

theorem finish_of_constant_eq_none {outcome : Outcome} (unknown : outcome.constant = none)
    (bothConst : Bool) (span : Span) :
    finish outcome bothConst span = (Value.runtime outcome.type.voided).withSpan span := by
  unfold finish Descriptor.voided
  split
  · rfl
  · rw [unknown]

theorem finish_true {outcome : Outcome} {c : Constant} (known : outcome.constant = some c)
    (bare : outcome.type.isVoid = false) (span : Span) :
    finish outcome true span =
      { type := narrowed outcome c, constant := some c, isConst := true,
        initializer := some (.ofConstant c (narrowed outcome c)), span } := by
  unfold finish
  rw [bare, known]
  rfl

/-- A finished value is not known, or known with the constant of the outcome. -/
theorem finish_cases (outcome : Outcome) (bothConst : Bool) (span : Span) :
    finish outcome bothConst span = (Value.runtime outcome.type.voided).withSpan span ∨
      ∃ c, outcome.constant = some c ∧ bothConst = true ∧
        finish outcome bothConst span =
          { type := narrowed outcome c, constant := some c, isConst := true,
            initializer := some (.ofConstant c (narrowed outcome c)), span } := by
  cases bare : outcome.type.isVoid with
  | true =>
      left
      unfold finish Descriptor.voided
      rw [bare]
      rfl
  | false =>
      cases known : outcome.constant with
      | none => exact .inl (finish_of_constant_eq_none known bothConst span)
      | some c =>
          cases bothConst with
          | true => exact .inr ⟨c, rfl, rfl, finish_true known bare span⟩
          | false =>
              left
              unfold finish Descriptor.voided
              rw [bare, known]
              rfl

section Solve

variable (s : Solver) (left right : Value) (operator : Operator) (e : Evaluation)

/-- The ruling on two values, what was traced left out. -/
def ruling : Ruling := s.settle (operation left operator right).settled

theorem solve_value :
    (s.solve left operator right e).1 =
      finish (s.ruling left right operator).outcome (left.isConst && right.isConst)
        operator.span := by
  rw [solve, ruling, ← outcome_dispatch]
  rfl

theorem solve_diagnostics :
    (s.solve left operator right e).2.diagnostics =
      e.diagnostics ++ (s.ruling left right operator).diagnostics := by
  rw [solve, ruling, ← diagnostics_dispatch, Evaluation.diagnostics_traceAll,
    Evaluation.diagnostics_reportAll]

theorem solve_failed :
    (s.solve left operator right e).2.failed =
      (e.failed || (s.ruling left right operator).diagnostics.any Diagnostic.isError) := by
  rw [solve, ruling, ← diagnostics_dispatch, Evaluation.failed_traceAll,
    Evaluation.failed_reportAll]

end Solve

end Solver

end BinarySolver
