/-
# BinarySolver.Solver.Operation -- an operation and what is ruled on it

An `Operation` has operands whose aliases are resolved.  A `Ruling` holds all that
a rule decides about it: the type, the constant if there is one, how wide the
result is to be made, and what is to be reported.  A rule that refuses an operation
still names a type, so that whatever contains the operation can be looked at too.
-/
import BinarySolver.Compatibility
import BinarySolver.Constant.Fold
import BinarySolver.Evaluation
import BinarySolver.Value

namespace BinarySolver

set_option autoImplicit false

/-- What becomes of the type of a folded constant. -/
inductive WidthRule where
  /-- The narrowest category that holds the constant. -/
  | minimal
  /-- The category of a shift by this amount. -/
  | shift (amount : UInt64)
  /-- The type that the rule names. -/
  | keep
deriving DecidableEq

structure Outcome where
  type : Descriptor
  constant : Option Constant
  width : WidthRule

/-- A type and nothing folded. -/
def Outcome.typed (type : Descriptor) : Outcome := { type, constant := none, width := .keep }

structure Operation where
  left : Value
  right : Value
  operator : Operator

structure Ruling where
  outcome : Outcome
  diagnostics : List Diagnostic
  events : List Event

namespace Ruling

/-- A result with nothing to report. -/
def of (outcome : Outcome) : Ruling := { outcome, diagnostics := [], events := [] }

def typed (type : Descriptor) : Ruling := of (.typed type)

/-- Reports a diagnostic before those of the ruling. -/
def warn (d : Diagnostic) (r : Ruling) : Ruling := { r with diagnostics := d :: r.diagnostics }

/-- Traces an event before those of the ruling. -/
def trace (event : Event) (r : Ruling) : Ruling := { r with events := event :: r.events }

end Ruling

namespace Operation

def op (o : Operation) : BinaryOp := o.operator.op

/-- Both operands are known when the program is compiled. -/
def bothConst (o : Operation) : Bool := o.left.isConst && o.right.isConst

def either (o : Operation) (p : Descriptor → Bool) : Bool := p o.left.type || p o.right.type

def swap (o : Operation) : Operation := { o with left := o.right, right := o.left }

/-- The signature of the first operand that has a property; the right one stands in
if neither has. -/
def signatureOf (o : Operation) (p : Descriptor → Bool) : String :=
  if p o.left.type then o.left.type.signature else o.right.type.signature

/-- The type of a refused operation: a truth value if the operator makes one, else
the type of the left operand. -/
def bestEffort (o : Operation) : Outcome :=
  .typed (if o.op.yieldsBool then .bool else o.left.type)

/-- Refuses the operation. -/
def refuse (o : Operation) (kind : DiagnosticKind) (arguments : List String)
    (related : List Related) : Ruling :=
  { outcome := o.bestEffort
    diagnostics := [.report kind o.operator.span arguments related]
    events := [] }

/-- An operand that stands in a source is shown with its type. -/
def relatedTo (v : Value) : List Related :=
  if v.span.source.isSome then [⟨v.span, "this is `" ++ v.type.signature ++ "`"⟩] else []

/-- The types of the operands cannot meet. -/
def incompatible (o : Operation) : Ruling :=
  o.refuse .incompatibleTypes [o.left.type.signature, o.right.type.signature]
    (relatedTo o.left ++ relatedTo o.right)

/-- A type does not have the operator. -/
def undefinedFor (o : Operation) (signature : String) : Ruling :=
  o.refuse .operatorNotForType [o.op.symbol, signature] []

/-! ## Folding -/

/-- Folds two known constants; without them only the type is left.  A zero of the
type stands in for a quotient by zero. -/
def fold (o : Operation) (type : Descriptor) : Ruling :=
  match o.left.constant, o.right.constant, o.bothConst with
  | some l, some r, true =>
    match Constant.fold o.op l r with
    | .value c =>
      (Ruling.of { type, constant := some c, width := .minimal }).trace (.folded o.op l r c)
    | .undefined => .of { type, constant := none, width := .minimal }
    | .zeroDivisor =>
      ((Ruling.of { type, constant := some (.zero type.category), width := .keep }).trace
        (.zeroSubstituted o.op type.category)).warn
          (.report .divideByZero o.operator.span [o.op.symbol] [])
  | _, _, _ => .typed type

/-! ## Enums -/

/-- An enum stands for the type behind it. -/
def unwrapEnum? (v : Value) : Option Value :=
  v.type.underlying?.map fun underlying => { v with type := underlying.resolve }

/-- Puts the types behind enums in the place of the enums, if there is one at least. -/
def unwrapEnums? (o : Operation) : Option Operation :=
  match unwrapEnum? o.left, unwrapEnum? o.right with
  | none, none => none
  | l, r => some { o with left := l.getD o.left, right := r.getD o.right }

def size (o : Operation) : Nat := o.left.type.size + o.right.type.size

theorem size_unwrapEnum?_lt {v w : Value} (h : unwrapEnum? v = some w) :
    w.type.size < v.type.size := by
  unfold unwrapEnum? at h
  obtain ⟨u, hu, rfl⟩ := Option.map_eq_some_iff.1 h
  have hv := Descriptor.sizePayload_lt v.type
  have hr := Descriptor.size_resolve_le u
  unfold Descriptor.underlying? at hu
  split at hu
  · rename_i e he
    split at hu
    · simp only [Option.some.injEq] at hu
      subst hu
      simp only [he, Descriptor.sizePayload] at hv
      simp only
      omega
    · simp at hu
  · simp at hu

theorem size_unwrapEnums?_lt {o p : Operation} (h : o.unwrapEnums? = some p) : p.size < o.size := by
  unfold unwrapEnums? at h
  cases hl : unwrapEnum? o.left with
  | none =>
    cases hr : unwrapEnum? o.right with
    | none => simp [hl, hr] at h
    | some r =>
      have := size_unwrapEnum?_lt hr
      simp only [hl, hr, Option.some.injEq] at h
      subst h
      simp only [size, Option.getD_none, Option.getD_some]
      omega
  | some l =>
    have := size_unwrapEnum?_lt hl
    cases hr : unwrapEnum? o.right with
    | none =>
      simp only [hl, hr, Option.some.injEq] at h
      subst h
      simp only [size, Option.getD_none, Option.getD_some]
      omega
    | some r =>
      have := size_unwrapEnum?_lt hr
      simp only [hl, hr, Option.some.injEq] at h
      subst h
      simp only [size, Option.getD_some]
      omega

end Operation

end BinarySolver
