/-
# BinarySolver.Solver.Rules -- how operations are solved, kind of type by kind of type

Each rule takes an operation of which one operand at least has the kind of type
that the rule is for.  Which rule is taken is decided in `BinarySolver.Solver`.
-/
import BinarySolver.Config
import BinarySolver.Solver.Operation

namespace BinarySolver

set_option autoImplicit false

/-- What the solution of an operation depends on besides the operation. -/
structure Solver where
  config : Config
  compatibility : Compatibility

namespace Solver

/-- Types meet by structure. -/
def ofConfig (config : Config) : Solver := { config, compatibility := structural }

/-- The types of the operands may meet; a `voidptr` takes any pointer. -/
def meets (s : Solver) (o : Operation) (ignoreAny : Bool) : Bool :=
  s.compatibility { ignoreAny, allowAssign := true } o.left.type o.right.type

/-- The type of the operand that outranks the other; the left one if neither does. -/
def wider (s : Solver) (o : Operation) : Descriptor :=
  if o.right.type.category.outranks s.config.wordSize o.left.type.category then o.right.type
  else o.left.type

/-- `&&` and `||` take truth values only. -/
def logicalRule (o : Operation) : Ruling :=
  if o.left.type.isBool && o.right.type.isBool then o.fold .bool
  else o.refuse .logicalNotBool [o.op.symbol] []

/-- A function is compared with nil and does nothing else. -/
def functionRule (o : Operation) : Ruling :=
  if !o.either Descriptor.isNil then o.incompatible
  else if o.op.isEquality then .typed .bool
  else o.undefinedFor (o.signatureOf Descriptor.isFunc)

/-- Arrays and slices are compared for equality. -/
def sequenceRule (s : Solver) (o : Operation) : Ruling :=
  if !s.meets o true then o.incompatible
  else if o.op.isEquality then .typed .bool
  else o.undefinedFor o.left.type.signature

/-- An integer is added to a pointer or taken from it. -/
def isOffset (o : Operation) : Bool :=
  (o.op == .add || o.op == .sub) && o.either Descriptor.isInteger

/-- Pointers are moved by integers and compared.  What is ruled is ruled with the
pointer on the left. -/
def pointerRule (s : Solver) (o : Operation) : Ruling :=
  if !isOffset o && !s.meets o true then o.incompatible
  else
    let o := if o.left.type.isPointer then o else o.swap
    if o.op == .add || o.op == .sub then .typed o.left.type
    else if o.op.isComparison then .typed .bool
    else o.undefinedFor o.left.type.signature

/-- Structures of one signature are compared for equality. -/
def structRule (o : Operation) : Ruling :=
  if o.left.type.signature != o.right.type.signature then o.incompatible
  else if o.op.isEquality then .typed .bool
  else o.undefinedFor o.left.type.signature

def traitRule (s : Solver) (o : Operation) : Ruling :=
  if !s.meets o true then o.incompatible
  else if o.op.isEquality then .typed .bool
  else o.undefinedFor (o.signatureOf Descriptor.isTrait)

/-- The comparison of two known values is known. -/
def knownTruth (o : Operation) (b : Bool) : Ruling :=
  .of { type := .bool, constant := if o.bothConst then some (.bool b) else none, width := .keep }

/-- Nil is equal to what holds nothing. -/
def nilRule (s : Solver) (o : Operation) : Ruling :=
  if !s.meets o false then o.incompatible
  else
    match o.op with
    | .eq => knownTruth o (o.left.constant.isNone && o.right.constant.isNone)
    | .ne => knownTruth o (o.left.constant.isSome && o.right.constant.isSome)
    | _ => o.undefinedFor (o.signatureOf Descriptor.isNil)

def anyRule (o : Operation) : Ruling :=
  if o.op.isEquality then .typed .bool
  else o.undefinedFor (o.signatureOf Descriptor.isAny)

def booleanRule (s : Solver) (o : Operation) : Ruling :=
  if !s.meets o true then o.incompatible
  else if o.op.isEquality then o.fold .bool
  else o.undefinedFor o.left.type.signature

/-- Texts are joined and compared for equality. -/
def stringRule (o : Operation) : Ruling :=
  if o.left.type.category != o.right.type.category then o.incompatible
  else if o.op == .add then o.fold (.scalar .str)
  else if o.op.isEquality then o.fold .bool
  else o.undefinedFor o.left.type.signature

/-! ## Numbers -/

/-- A known amount that is not negative, or any of an unsigned type. -/
def isShiftAmount (v : Value) : Bool :=
  v.type.isUnsignedInteger ||
    (v.type.isSignedInteger && v.isConst &&
      ((v.constant.bind Constant.asInt64?).any fun x => decide (0 ≤ x)))

/-- A shift is typed by its amount once both operands are known. -/
def shiftRule (o : Operation) : Ruling :=
  let r := o.fold (.scalar .u64)
  let outcome :=
    match r.outcome.width, o.right.constant.bind Constant.asUInt64? with
    | .minimal, some amount => { r.outcome with width := .shift amount }
    | _, _ => r.outcome
  let r := { r with outcome }
  if isShiftAmount o.right then r
  else r.warn
    (.report .bitshiftMustUnsigned o.operator.span [o.right.type.signature] [])

def integerRule (s : Solver) (o : Operation) : Ruling :=
  if !(o.left.type.isNumeric && o.right.type.isNumeric) then o.incompatible
  else if o.op.isShift then shiftRule o
  else if o.op.isComparison then o.fold .bool
  else if o.op.isArithmetic || o.op == .rem || o.op.isBitwise then o.fold (s.wider o)
  else o.undefinedFor o.left.type.signature

/-- A known float becomes an operand of the type of the integer beside it, if it
holds a whole number.  Beside a signed integer a number too large for it becomes a
`u64`; beside an unsigned one a negative number wraps. -/
def wholeOperand? (integer known : Value) : Option Value :=
  if !known.isConst then none
  else
    known.constant.bind fun c =>
      if integer.type.isSignedInteger then
        match c.exactInt64?, c.exactUInt64? with
        | some x, _ => some { known with type := integer.type, constant := some (.int x) }
        | none, some x => some { known with type := .scalar .u64, constant := some (.uint x) }
        | none, none => none
      else
        match c.exactUInt64?, c.exactInt64? with
        | some x, _ => some { known with type := integer.type, constant := some (.uint x) }
        | none, some x =>
          some { known with type := integer.type, constant := some (.uint x.toUInt64) }
        | none, none => none

/-- The remainder of an integer and a float as one of two integers. -/
def wholeRemainder? (o : Operation) : Option Operation :=
  if o.left.type.isInteger then
    (wholeOperand? o.left o.right).map fun right => { o with right }
  else if o.right.type.isInteger then
    (wholeOperand? o.right o.left).map fun left => { o with left }
  else none

/-- A numeric constant becomes a float, whatever the type says. -/
def promote (v : Value) : Value :=
  match v.constant.bind Constant.asFloat? with
  | some x => { v with constant := some (.float x) }
  | none => v

def floatRule (s : Solver) (o : Operation) : Ruling :=
  if !(o.left.type.isNumeric && o.right.type.isNumeric) then o.incompatible
  else if o.op == .rem then
    match wholeRemainder? o with
    | some whole => s.integerRule whole
    | none => o.undefinedFor (o.signatureOf Descriptor.isFloat)
  else if !o.op.isComparison && !o.op.isArithmetic then
    o.undefinedFor (o.signatureOf Descriptor.isFloat)
  else
    let p := { o with left := promote o.left, right := promote o.right }
    p.fold (if o.op.isComparison then .bool else s.wider p)

end Solver

end BinarySolver
