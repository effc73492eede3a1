/-
# BinarySolver.Proofs.Placelessness -- the places of types are not looked at

A type has a place, the place where it was written, and a rule never looks at it: the ruling on
operands whose types are taken from their places (`Operation.placeless`) is the same ruling, but
for the place of its type (`placeless_settle`), and so along all choices of a rule
(`placeless_dispatch`).  The comparison of types has to be as blind (`Compatibility.Placeless`);
that by structure is.  An alias whose name is an identifier differs from its target in its place
only, whatever shapes stand around it, so operands are solved as their targets are:
**`solve_unaliased`**.
-/
import BinarySolver.Proofs.AliasResolution
import BinarySolver.Proofs.Settle

namespace BinarySolver

set_option autoImplicit false

/-! ## Types without their places -/

def Descriptor.placeless (d : Descriptor) : Descriptor := d.withSpan .detached

/-- A value whose type stands nowhere; the value itself stays where it is. -/
def Value.placeless (v : Value) : Value := { v with type := v.type.placeless }

def Operation.placeless (o : Operation) : Operation :=
  { o with left := o.left.placeless, right := o.right.placeless }

def Outcome.placeless (outcome : Outcome) : Outcome :=
  { outcome with type := outcome.type.placeless }

def Ruling.placeless (r : Ruling) : Ruling := { r with outcome := r.outcome.placeless }

/-- The places of types do not matter to a comparison. -/
def Compatibility.Placeless (compatibility : Compatibility) : Prop :=
  ∀ mode l r, compatibility mode l.placeless r.placeless = compatibility mode l r

/-- The comparison by structure resolves, and then looks at everything but the place. -/
theorem Compatibility.placeless_structural : Compatibility.Placeless structural := by
  intro mode l r
  rw [structural_eq_ite, structural_eq_ite mode l r, Descriptor.placeless, Descriptor.placeless,
    Descriptor.resolve_withSpan, Descriptor.resolve_withSpan]
  rfl

namespace Operation

variable {o p : Operation}

/-! ## Rulings -/

/-- A refused operation names its left type or `bool`, and the signatures of its types. -/
theorem placeless_refuse (o : Operation) (kind : DiagnosticKind) (arguments : List String)
    (related : List Related) :
    (o.placeless.refuse kind arguments related).placeless =
      (o.refuse kind arguments related).placeless := by
  have op : o.placeless.op = o.op := rfl
  unfold refuse bestEffort
  rw [op]
  cases o.op.yieldsBool <;> rfl

theorem placeless_incompatible (o : Operation) :
    o.placeless.incompatible.placeless = o.incompatible.placeless :=
  placeless_refuse o .incompatibleTypes [o.left.type.signature, o.right.type.signature]
    (relatedTo o.left ++ relatedTo o.right)

theorem placeless_undefinedFor (o : Operation) (signature : String) :
    (o.placeless.undefinedFor signature).placeless = (o.undefinedFor signature).placeless :=
  placeless_refuse o .operatorNotForType [o.op.symbol, signature] []

/-- A fold is of constants; of the type that it is given only the category is looked at. -/
theorem placeless_fold (o : Operation) {type type' : Descriptor}
    (same : type.placeless = type'.placeless) :
    (o.placeless.fold type).placeless = (o.fold type').placeless := by
  have constants : o.placeless.fold type = o.fold type := rfl
  have category : type.placeless.category = type'.placeless.category := by rw [same]
  change type.category = type'.category at category
  rw [constants, fold, fold, category]
  split
  · split <;> simp only [Ruling.placeless, Ruling.of, Ruling.trace, Ruling.warn,
      Outcome.placeless, same]
  · simp only [Ruling.placeless, Ruling.typed, Ruling.of, Outcome.typed, Outcome.placeless, same]

theorem fold_placeless (o : Operation) (type : Descriptor) : o.placeless.fold type = o.fold type :=
  rfl

/-! ## The choice of a rule -/

theorem placeless_unwrapEnums? (o : Operation) :
    o.placeless.unwrapEnums?.map placeless = o.unwrapEnums?.map placeless := by
  have left : o.placeless.left.type.underlying? = o.left.type.underlying? := rfl
  have right : o.placeless.right.type.underlying? = o.right.type.underlying? := rfl
  unfold unwrapEnums? unwrapEnum?
  rw [left, right]
  cases o.left.type.underlying? <;> cases o.right.type.underlying? <;> rfl

theorem placeless_next? (o : Operation) :
    o.placeless.next?.map placeless = o.next?.map placeless := by
  have selected : Handler.select o.placeless = Handler.select o := rfl
  rw [next?, next?, selected]
  split
  · exact placeless_unwrapEnums? o
  · rfl

/-- What differs in places only is replaced by what differs in places only. -/
theorem next?_eq_of_placeless (same : p.placeless = o.placeless) :
    p.next?.map placeless = o.next?.map placeless := by
  rw [← placeless_next? p, same, placeless_next?]

end Operation

namespace Solver

/-! ## Rule by rule -/

section Rules

variable (s : Solver) (o : Operation)

theorem placeless_logicalRule :
    (logicalRule o.placeless).placeless = (logicalRule o).placeless := by
  simp only [logicalRule, apply_ite Ruling.placeless, Operation.placeless_refuse,
    Operation.fold_placeless]
  rfl

/-- Several rules compare for equality, unless the operands cannot meet. -/
theorem placeless_equality (strangers : Bool) (signature : String) :
    (if strangers then o.placeless.incompatible
      else if o.op.isEquality then .typed .bool
      else o.placeless.undefinedFor signature).placeless =
    (if strangers then o.incompatible
      else if o.op.isEquality then .typed .bool
      else o.undefinedFor signature).placeless := by
  simp only [apply_ite Ruling.placeless, Operation.placeless_incompatible,
    Operation.placeless_undefinedFor]

theorem placeless_anyRule : (anyRule o.placeless).placeless = (anyRule o).placeless := by
  simp only [anyRule, apply_ite Ruling.placeless, Operation.placeless_undefinedFor]
  rfl

theorem placeless_stringRule :
    (stringRule o.placeless).placeless = (stringRule o).placeless := by
  simp only [stringRule, apply_ite Ruling.placeless, Operation.placeless_incompatible,
    Operation.placeless_undefinedFor, Operation.fold_placeless]
  rfl

theorem placeless_wider : (s.wider o.placeless).placeless = (s.wider o).placeless := by
  simp only [wider, apply_ite Descriptor.placeless]
  rfl

theorem placeless_integerRule :
    (s.integerRule o.placeless).placeless = (s.integerRule o).placeless := by
  have shift : shiftRule o.placeless = shiftRule o := rfl
  simp only [integerRule, apply_ite Ruling.placeless, Operation.placeless_incompatible,
    Operation.placeless_undefinedFor, o.fold_placeless .bool, shift,
    o.placeless_fold (placeless_wider s o)]
  rfl

theorem promote_placeless (v : Value) : promote v.placeless = (promote v).placeless := by
  have same : v.placeless.constant = v.constant := rfl
  rw [promote, promote, same]
  cases v.constant.bind Constant.asFloat? <;> rfl

/-- A whole operand takes the type of the integer beside it, or is a `u64` that stands nowhere. -/
theorem placeless_wholeOperand? (integer known : Value) :
    (wholeOperand? integer.placeless known.placeless).map Value.placeless =
      (wholeOperand? integer known).map Value.placeless := by
  have signed : integer.placeless.type.isSignedInteger = integer.type.isSignedInteger := rfl
  have isConst : known.placeless.isConst = known.isConst := rfl
  have constant : known.placeless.constant = known.constant := rfl
  unfold wholeOperand?
  rw [signed, isConst, constant]
  cases known.isConst with
  | false => rfl
  | true =>
      cases known.constant with
      | none => rfl
      | some c =>
          simp only [Bool.not_true, Bool.false_eq_true, if_false, Option.bind_some]
          cases integer.type.isSignedInteger <;> cases c.exactInt64? <;>
            cases c.exactUInt64? <;> rfl

theorem placeless_wholeRemainder? :
    (wholeRemainder? o.placeless).map Operation.placeless =
      (wholeRemainder? o).map Operation.placeless := by
  have left : o.placeless.left.type.isInteger = o.left.type.isInteger := rfl
  have right : o.placeless.right.type.isInteger = o.right.type.isInteger := rfl
  unfold wholeRemainder?
  rw [left, right]
  split
  · have whole := congrArg (Option.map fun v => { o.placeless with right := v })
      (placeless_wholeOperand? o.left o.right)
    simp only [Option.map_map] at whole ⊢
    exact whole
  split
  · have whole := congrArg (Option.map fun v => { o.placeless with left := v })
      (placeless_wholeOperand? o.right o.left)
    simp only [Option.map_map] at whole ⊢
    exact whole
  · rfl

theorem placeless_floatRule :
    (s.floatRule o.placeless).placeless = (s.floatRule o).placeless := by
  have op : o.placeless.op = o.op := rfl
  have numbers : (o.placeless.left.type.isNumeric && o.placeless.right.type.isNumeric) =
      (o.left.type.isNumeric && o.right.type.isNumeric) := rfl
  have signature : o.placeless.signatureOf Descriptor.isFloat = o.signatureOf Descriptor.isFloat :=
    rfl
  have undefined := o.placeless_undefinedFor (o.signatureOf Descriptor.isFloat)
  unfold floatRule
  rw [op, numbers, signature]
  split
  · exact o.placeless_incompatible
  split
  · -- both remainders are of integers, or neither is
    have whole := placeless_wholeRemainder? o
    cases same : wholeRemainder? o with
    | none =>
        rw [same, Option.map_none, Option.map_eq_none_iff] at whole
        rw [whole]
        exact undefined
    | some p =>
        rw [same, Option.map_some, Option.map_eq_some_iff] at whole
        obtain ⟨q, found, alike⟩ := whole
        rw [found]
        dsimp only
        rw [← placeless_integerRule s q, alike, placeless_integerRule]
  split
  · exact undefined
  · let p : Operation := { o with left := promote o.left, right := promote o.right }
    have promoted :
        (⟨promote o.placeless.left, promote o.placeless.right, o.placeless.operator⟩ : Operation) =
          p.placeless := by
      rw [Operation.placeless, promote_placeless, promote_placeless]
      rfl
    have type : (if o.op.isComparison then .bool else s.wider p.placeless).placeless =
        (if o.op.isComparison then .bool else s.wider p).placeless := by
      split
      · rfl
      · exact placeless_wider s p
    dsimp only
    rw [promoted]
    exact p.placeless_fold type

variable (blind : s.compatibility.Placeless)
include blind

theorem meets_placeless (ignoreAny : Bool) : s.meets o.placeless ignoreAny = s.meets o ignoreAny :=
  blind _ _ _

theorem placeless_pointerRule :
    (s.pointerRule o.placeless).placeless = (s.pointerRule o).placeless := by
  have turned : (if o.placeless.left.type.isPointer then o.placeless else o.placeless.swap) =
      (if o.left.type.isPointer then o else o.swap).placeless := by
    rw [apply_ite Operation.placeless]
    rfl
  simp only [pointerRule, turned, meets_placeless s o blind, apply_ite Ruling.placeless,
    Operation.placeless_incompatible, Operation.placeless_undefinedFor]
  rfl

theorem placeless_nilRule : (s.nilRule o.placeless).placeless = (s.nilRule o).placeless := by
  have op : o.placeless.op = o.op := rfl
  unfold nilRule
  rw [op, meets_placeless s o blind]
  split
  · exact o.placeless_incompatible
  split
  · rfl
  · rfl
  · exact o.placeless_undefinedFor _

theorem placeless_booleanRule :
    (s.booleanRule o.placeless).placeless = (s.booleanRule o).placeless := by
  simp only [booleanRule, meets_placeless s o blind, apply_ite Ruling.placeless,
    Operation.placeless_incompatible, Operation.placeless_undefinedFor, Operation.fold_placeless]
  rfl

end Rules

/-- **The ruling of a rule does not depend on the places of types**, but for the place of its
type. -/
theorem placeless_settle (s : Solver) (blind : s.compatibility.Placeless) (o : Operation) :
    (s.settle o.placeless).placeless = (s.settle o).placeless := by
  have same : Handler.select o.placeless = Handler.select o := rfl
  unfold settle
  rw [same]
  cases Handler.select o with
  | none => exact o.placeless_undefinedFor o.left.type.signature
  | some handler =>
      cases handler with
      | logical => exact placeless_logicalRule o
      | function => exact placeless_equality o (!o.either Descriptor.isNil) _
      | array | slice | trait =>
          have meets := meets_placeless s o blind true
          simp only [sequenceRule, traitRule, meets]
          exact placeless_equality o _ _
      | pointer => exact placeless_pointerRule s o blind
      | enum => exact o.placeless_undefinedFor _
      | struct => exact placeless_equality o (o.left.type.signature != o.right.type.signature) _
      | nil => exact placeless_nilRule s o blind
      | any => exact placeless_anyRule o
      | bool => exact placeless_booleanRule s o blind
      | str => exact placeless_stringRule o
      | float => exact placeless_floatRule s o
      | unsigned | signed => exact placeless_integerRule s o

/-- Nor does the ruling at the end of all choices, nor what was traced on the way. -/
theorem placeless_dispatch (s : Solver) (blind : s.compatibility.Placeless) {o p : Operation}
    (same : p.placeless = o.placeless) :
    (s.dispatch p).placeless = (s.dispatch o).placeless := by
  have event : ∀ o : Operation,
      Event.dispatched o.op o.left.type.signature o.right.type.signature (Handler.select o) =
        .dispatched o.placeless.op o.placeless.left.type.signature
          o.placeless.right.type.signature (Handler.select o.placeless) := fun _ => rfl
  fun_induction Operation.settled o generalizing p with
  | case1 o q next ih =>
      -- types behind enums keep their places, so the next operations are alike, not equal
      have following := Operation.next?_eq_of_placeless same
      rw [next, Option.map_some, Option.map_eq_some_iff] at following
      obtain ⟨r, found, alike⟩ := following
      rw [dispatch_eq, dispatch_eq, event p, event o, same, next, found]
      exact congrArg (Ruling.trace _) (ih alike)
  | case2 o last =>
      have following := Operation.next?_eq_of_placeless same
      rw [last, Option.map_none, Option.map_eq_none_iff] at following
      have settled : (s.settle p).placeless = (s.settle o).placeless := by
        rw [← placeless_settle s blind p, same, placeless_settle s blind o]
      rw [dispatch_eq, dispatch_eq, event p, event o, same, last, following]
      exact congrArg (Ruling.trace _) settled

/-! ## Solving -/

/-- A value is made of an outcome without a look at the place of its type. -/
theorem placeless_finish (outcome : Outcome) (bothConst : Bool) (span : Span) :
    (finish outcome.placeless bothConst span).placeless =
      (finish outcome bothConst span).placeless := by
  obtain ⟨type, constant, width⟩ := outcome
  have void : type.placeless.isVoid = type.isVoid := rfl
  simp only [finish, Outcome.placeless, void]
  split
  · rfl
  cases constant with
  | none => rfl
  | some c =>
      cases bothConst with
      | false => rfl
      | true =>
          cases width with
          | minimal =>
              simp only [narrowed]
              cases c.minimalCategory? <;> rfl
          | shift | keep => rfl

section Solve

variable {left right left' right' : Value} {operator : Operator}

/-- Operands whose types resolve to types that differ in their places are solved alike, but
for the place of the type. -/
theorem solve_of_placeless (s : Solver) (blind : s.compatibility.Placeless)
    (same : (operation left operator right).placeless = (operation left' operator right').placeless)
    (e : Evaluation) :
    (s.solve left operator right e).1.placeless = (s.solve left' operator right' e).1.placeless ∧
      (s.solve left operator right e).2 = (s.solve left' operator right' e).2 := by
  have rulings := placeless_dispatch s blind same
  have outcomes := congrArg Ruling.outcome rulings
  have bothConst := congrArg Operation.bothConst same
  constructor
  · have values : ∀ left right : Value, (s.solve left operator right e).1.placeless =
        (finish (s.dispatch (operation left operator right)).placeless.outcome
          (operation left operator right).placeless.bothConst operator.span).placeless :=
      fun _ _ => (placeless_finish _ _ _).symm
    rw [values, values, outcomes, bothConst]
  · have runs : ∀ left right : Value, (s.solve left operator right e).2 =
        (e.reportAll (s.dispatch (operation left operator right)).placeless.diagnostics).traceAll
          (s.dispatch (operation left operator right)).placeless.events := fun _ _ => rfl
    rw [runs, runs, rulings]

end Solve

/-- **Aliases are resolved once and for all, under any shapes, and leave nothing but a place.**
Resolving goes through shapes; what it leaves is no alias, is what stands at the end of the
chain but for the signature, stands where the outermost type does, and resolves to itself.  So
operands are solved as what they are other names for, at the places of the aliases, and as what
they are other names for where that stands, but for the place of the type of the result; for
this the comparison of types must not look at places, which that by structure does not. -/
theorem solve_unaliased :
    (∀ (shapes : List Shape) (d : Descriptor),
      (d.wrap shapes).resolve = d.resolve.wrap shapes ∧
      (d.wrap shapes).resolve.aliasOf = none ∧
      (d.wrap shapes).resolve =
        { d.chainEnd with signature := (d.wrap shapes).resolve.signature, span := d.span } ∧
      (d.wrap shapes).resolve.resolve = (d.wrap shapes).resolve) ∧
    (∀ config, (ofConfig config).compatibility.Placeless) ∧
    ∀ (s : Solver) (left right : Value) (l r : Descriptor) (operator : Operator) (e : Evaluation),
      left.type.Unaliased l → right.type.Unaliased r →
      s.solve left operator right e =
        s.solve { left with type := l.withSpan left.type.span } operator
          { right with type := r.withSpan right.type.span } e ∧
      (s.compatibility.Placeless →
        (s.solve left operator right e).1.placeless =
          (s.solve { left with type := l } operator { right with type := r } e).1.placeless ∧
        (s.solve left operator right e).2 =
          (s.solve { left with type := l } operator { right with type := r } e).2) := by
  refine ⟨fun shapes d => ?_, fun config => Compatibility.placeless_structural, ?_⟩
  · exact ⟨Descriptor.resolve_wrap shapes d, Descriptor.aliasOf_resolve _,
      Descriptor.resolve_wrap_eq_chainEnd shapes d, Descriptor.resolve_resolve _⟩
  intro s left right l r operator e unaliasedLeft unaliasedRight
  have leftType := unaliasedLeft.resolve_eq
  have rightType := unaliasedRight.resolve_eq
  constructor
  · have operations : operation left operator right =
        operation { left with type := l.withSpan left.type.span } operator
          { right with type := r.withSpan right.type.span } := by
      simp only [operation, Descriptor.resolve_withSpan, leftType, rightType]
    simp only [solve, operations]
  · intro blind
    apply solve_of_placeless s blind
    simp only [operation, leftType, rightType]
    rfl

/-- A pointer to a `Link`, which is a pointer to a `Count`, which is an `i32`, is moved as a
pointer to a pointer is, and what is left of the names is the place of the first. -/
theorem solve_unaliased_link :
    let place : Span := ⟨some 1, 4, 8⟩
    let count := Descriptor.aliasTo "Count" (.scalar .i32)
    let link := (Descriptor.aliasTo "Link" count.pointerTo).withSpan place
    let left := Value.runtime link.pointerTo
    let plain := Value.runtime (Descriptor.scalar .i32).pointerTo.pointerTo
    let right := Value.uint .u8 3
    let solved := (ofConfig .standard).solve left (.detached .add) right .empty
    let solvedPlain := (ofConfig .standard).solve plain (.detached .add) right .empty
    left.type.Unaliased plain.type ∧ solved.1.placeless = solvedPlain.1.placeless ∧
      solved.2 = solvedPlain.2 ∧ solved.1.type.signature = "**i32" ∧
      solved.1.type.span = place ∧ solvedPlain.1.type.span = .detached := by
  intro place count link left plain right solved solvedPlain
  have followed : left.type.Unaliased plain.type :=
    .follow [.pointer] (a := link) rfl (by decide)
      (.follow [.pointer, .pointer] (a := count) rfl (by decide) (.self _))
  obtain ⟨-, blind, solves⟩ := solve_unaliased
  have same := solves (ofConfig .standard) left right plain.type right.type (.detached .add) .empty
    followed (.self _)
  obtain ⟨value, run⟩ := same.2 (blind .standard)
  exact ⟨followed, value, run, by decide +kernel, by decide +kernel, by decide +kernel⟩

end Solver

end BinarySolver
