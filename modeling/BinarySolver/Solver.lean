/-
# BinarySolver.Solver -- solving an operation

The first rule is taken whose kind of type one of the operands has; an enum is
replaced by the type behind it and the choice is made again.  The ruling is then
finished: a known result is made as narrow as its rule says and gets its
initialiser, and it stands where the operator stands.
-/
import BinarySolver.Solver.Rules

namespace BinarySolver

set_option autoImplicit false

namespace Handler

/-- The kinds of types in the order in which they are looked for. -/
def priority : List (Handler × (Descriptor → Bool)) :=
  [(function, Descriptor.isFunc), (array, Descriptor.isArray), (slice, Descriptor.isSlice),
    (pointer, Descriptor.isPointer), (enum, Descriptor.isEnum), (struct, Descriptor.isStruct),
    (trait, Descriptor.isTrait), (nil, Descriptor.isNil), (any, Descriptor.isAny),
    (bool, Descriptor.isBool), (str, Descriptor.isStr), (float, Descriptor.isFloat),
    (unsigned, Descriptor.isUnsignedInteger), (signed, Descriptor.isSignedNumeric)]

/-- A logical operator decides by itself, else the first kind that either operand has. -/
def select (o : Operation) : Option Handler :=
  if o.op.isLogical then some logical
  else (priority.find? fun entry => o.either entry.2).map Prod.fst

end Handler

namespace Solver

/-- Takes the rule for an operation. -/
def dispatch (s : Solver) (o : Operation) : Ruling :=
  let handler := Handler.select o
  let ruling :=
    match handler with
    | none => o.undefinedFor o.left.type.signature
    | some .logical => logicalRule o
    | some .function => functionRule o
    | some .array | some .slice => s.sequenceRule o
    | some .pointer => s.pointerRule o
    | some .enum =>
      match _h : o.unwrapEnums? with
      | some unwrapped => s.dispatch unwrapped
      | none => o.undefinedFor (o.signatureOf Descriptor.isEnum)
    | some .struct => structRule o
    | some .trait => s.traitRule o
    | some .nil => s.nilRule o
    | some .any => anyRule o
    | some .bool => s.booleanRule o
    | some .str => stringRule o
    | some .float => s.floatRule o
    | some .unsigned | some .signed => s.integerRule o
  ruling.trace (.dispatched o.op o.left.type.signature o.right.type.signature handler)
termination_by o.size
decreasing_by exact Operation.size_unwrapEnums?_lt _h

/-- The type of a known result. -/
def narrowed (outcome : Outcome) (c : Constant) : Descriptor :=
  match outcome.width with
  | .minimal => (c.minimalCategory?.map Descriptor.scalar).getD outcome.type
  | .shift amount => .scalar (Width.ofShift amount)
  | .keep => outcome.type

/-- Makes a value of an outcome: `bothConst` says whether both operands are known,
without which nothing is.  There are no values of type `void` to be known. -/
def finish (outcome : Outcome) (bothConst : Bool) (span : Span) : Value :=
  if outcome.type.isVoid then
    (Value.runtime { outcome.type with signature := outcome.type.category.name }).withSpan span
  else
    match outcome.constant, bothConst with
    | some c, true =>
      let type := narrowed outcome c
      { type, constant := some c, isConst := true,
        initializer := some (.ofConstant c type), span }
    | _, _ => (Value.runtime outcome.type).withSpan span

/-- The operation on two values, their aliases resolved. -/
def operation (left : Value) (operator : Operator) (right : Value) : Operation :=
  { left := { left with type := left.type.resolve }
    right := { right with type := right.type.resolve }
    operator }

/-- Solves `left operator right` in an evaluation.  There is a value in any case. -/
def solve (s : Solver) (left : Value) (operator : Operator) (right : Value) (e : Evaluation) :
    Value × Evaluation :=
  let o := operation left operator right
  let ruling := s.dispatch o
  (finish ruling.outcome o.bothConst operator.span,
    (e.reportAll ruling.diagnostics).traceAll ruling.events)

end Solver

end BinarySolver
