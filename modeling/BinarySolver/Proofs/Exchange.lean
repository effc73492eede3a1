/-
# BinarySolver.Proofs.Exchange -- operands that change places

Every rule asks of both operands alike whether they can meet, so an operation and the one
with its operands exchanged select one rule, at the end of one choice (`settled_swap`), and
are refused with errors of the same kinds.  What is said of them need not be the same: a
message names the left type first.  Equality is exchanged as a whole: the two solves have
one value (`solve_swap`), since words of either signedness are equal if their bits are, and
numbers that are compared with floats are made floats first.
-/
import BinarySolver.Proofs.Ordering
import BinarySolver.Proofs.Refusal
import BinarySolver.Proofs.Symmetry

namespace BinarySolver

set_option autoImplicit false

/-- A comparison of types that asks the same of both. -/
def Compatibility.Symmetric (meets : Compatibility) : Prop :=
  ∀ mode left right, meets mode left right = meets mode right left

/-! ## Operands -/

namespace Value

variable {v : Value} {c : Constant}

/-- No constant of a plain kind that is no number is a number. -/
theorem Fits.isNumber_eq_false (fits : v.Fits) {k : Category} (kind : v.type.isA k = true)
    (number : k.isNumeric = false) (enum : k ≠ .enum) (resolved : v.type.aliasOf = none)
    (known : v.constant = some c) : c.isNumber = false := by
  obtain ⟨category, plain⟩ := Descriptor.isA_iff.1 kind
  have bare : v.type.isEnum = false := by
    rw [Descriptor.isEnum, Descriptor.isA_of_isPlain plain, category, beq_eq_false_iff_ne]
    exact enum
  have typed := fits c known
  rw [Descriptor.unwrap_of_isEnum_eq_false bare resolved] at typed
  rw [Constant.isNumber_eq_of_fits typed, Descriptor.isNumeric, category, number, Bool.and_false]

/-- A constant of a plain type of numbers is a float if the type is. -/
theorem Fits.isFloat_eq (fits : v.Fits) (number : v.type.isNumeric = true)
    (resolved : v.type.aliasOf = none) (known : v.constant = some c) :
    c.isFloat = v.type.isFloat := by
  have typed := fits c known
  rw [Descriptor.unwrap_of_isNumeric number resolved] at typed
  exact Constant.isFloat_eq_of_fits typed

end Value

/-! ## The choice of a rule -/

namespace Operation

variable (o : Operation)

theorem swap_left : o.swap.left = o.right := rfl

theorem swap_right : o.swap.right = o.left := rfl

theorem op_swap : o.swap.op = o.op := rfl

theorem either_swap (p : Descriptor → Bool) : o.swap.either p = o.either p := Bool.or_comm _ _

theorem bothConst_swap : o.swap.bothConst = o.bothConst := Bool.and_comm _ _

theorem select_swap : Handler.select o.swap = Handler.select o := by
  unfold Handler.select
  simp only [either_swap]
  rfl

theorem unwrapEnums?_swap : o.swap.unwrapEnums? = o.unwrapEnums?.map swap := by
  cases left : o.left.type.underlying? <;> cases right : o.right.type.underlying? <;>
    simp [unwrapEnums?, unwrapEnum?, swap, left, right]

theorem next?_swap : o.swap.next? = o.next?.map swap := by
  rw [next?, next?, select_swap, unwrapEnums?_swap]
  split <;> rfl

/-- The choice ends with the operands exchanged. -/
theorem settled_swap : o.swap.settled = o.settled.swap := settled_map swap next?_swap o

/-- If both constants are numbers, both are floats or none is. -/
def Alike : Prop :=
  ∀ l r, o.left.constant = some l → o.right.constant = some r →
    l.isNumber = true → r.isNumber = true → l.isFloat = r.isFloat

/-- The operands have no constants but those of their types, which are no aliases. -/
structure Typed : Prop where
  left : o.left.Fits
  right : o.right.Fits
  leftResolved : o.left.type.aliasOf = none
  rightResolved : o.right.type.aliasOf = none

variable {o}

theorem typed_settled {left right : Value} (leftFits : left.Fits) (rightFits : right.Fits)
    (operator : Operator) : (Solver.operation left operator right).settled.Typed where
  left := leftFits.settled_left right operator
  right := rightFits.settled_right left operator
  leftResolved := Solver.aliasOf_settled_left left right operator
  rightResolved := Solver.aliasOf_settled_right left right operator

/-- Beside what is of a plain kind that is no number there are no two numbers. -/
theorem Typed.alike_of_isA (typed : o.Typed) {k : Category} (number : k.isNumeric = false)
    (enum : k ≠ .enum) (kind : o.either (·.isA k) = true) : o.Alike := by
  intro l r leftKnown rightKnown leftNumber rightNumber
  rcases Bool.or_eq_true_iff.1 kind with kind | kind
  · rw [typed.left.isNumber_eq_false kind number enum typed.leftResolved leftKnown] at leftNumber
    cases leftNumber
  · rw [typed.right.isNumber_eq_false kind number enum typed.rightResolved rightKnown]
      at rightNumber
    cases rightNumber

/-- Where the rule for floats is not selected for two numbers, none is a float. -/
theorem Typed.alike_of_select (typed : o.Typed) (logical : o.op.isLogical = false)
    (selected : Handler.select o ≠ some .float) (left : o.left.type.isNumeric = true)
    (right : o.right.type.isNumeric = true) : o.Alike := by
  intro l r leftKnown rightKnown _ _
  have floats : o.either Descriptor.isFloat = false := by
    refine Bool.eq_false_iff.2 fun floats => selected ?_
    rw [Handler.select_numbers logical left right, floats]
    rfl
  obtain ⟨leftFloat, rightFloat⟩ := Bool.or_eq_false_iff.1 floats
  rw [typed.left.isFloat_eq left typed.leftResolved leftKnown, leftFloat,
    typed.right.isFloat_eq right typed.rightResolved rightKnown, rightFloat]

end Operation

/-! ## Refusals -/

/-- The kinds of the errors of a ruling. -/
def Ruling.kinds (r : Ruling) : List DiagnosticKind := r.refusals.map Prod.fst

namespace Solver

section Refusals

variable {s : Solver} (o : Operation)

theorem meets_swap (symmetric : s.compatibility.Symmetric) (ignoreAny : Bool) :
    s.meets o.swap ignoreAny = s.meets o ignoreAny :=
  symmetric _ _ _

theorem kinds_typed (type : Descriptor) : (Ruling.typed type).kinds = [] := rfl

theorem kinds_incompatible : o.incompatible.kinds = [.incompatibleTypes] := rfl

theorem kinds_undefinedFor (signature : String) :
    (o.undefinedFor signature).kinds = [.operatorNotForType] := rfl

theorem kinds_fold (type : Descriptor) : (o.fold type).kinds = [] := by
  rw [Ruling.kinds, Operation.refusals_fold]
  rfl

theorem kinds_shiftRule : (shiftRule o).kinds = [] := by
  rw [Ruling.kinds, refusals_shiftRule]
  rfl

theorem kinds_logicalRule_swap : (logicalRule o.swap).kinds = (logicalRule o).kinds := by
  have refused : ∀ p : Operation, (p.refuse .logicalNotBool [p.op.symbol] []).kinds =
      [.logicalNotBool] := fun _ => rfl
  simp only [logicalRule, apply_ite Ruling.kinds, kinds_fold, refused]
  rw [o.swap_left, o.swap_right, Bool.and_comm]

/-- Several rules compare for equality, unless the operands cannot meet. -/
theorem kinds_equality (strangers : Bool) (signature : String) :
    (if strangers then o.incompatible
      else if o.op.isEquality then .typed .bool
      else o.undefinedFor signature).kinds =
    if strangers then [.incompatibleTypes]
      else if o.op.isEquality then [] else [.operatorNotForType] := by
  simp only [apply_ite Ruling.kinds, kinds_incompatible, kinds_typed, kinds_undefinedFor]

theorem kinds_functionRule_swap : (functionRule o.swap).kinds = (functionRule o).kinds := by
  rw [functionRule, functionRule, kinds_equality, kinds_equality, o.either_swap, o.op_swap]

theorem kinds_sequenceRule_swap (symmetric : s.compatibility.Symmetric) :
    (s.sequenceRule o.swap).kinds = (s.sequenceRule o).kinds := by
  rw [sequenceRule, sequenceRule, kinds_equality, kinds_equality, meets_swap o symmetric,
    o.op_swap]

theorem kinds_structRule_swap : (structRule o.swap).kinds = (structRule o).kinds := by
  rw [structRule, structRule, kinds_equality, kinds_equality, o.op_swap, o.swap_left,
    o.swap_right, bne_comm]

theorem kinds_traitRule_swap (symmetric : s.compatibility.Symmetric) :
    (s.traitRule o.swap).kinds = (s.traitRule o).kinds := by
  rw [traitRule, traitRule, kinds_equality, kinds_equality, meets_swap o symmetric, o.op_swap]

theorem kinds_anyRule_swap : (anyRule o.swap).kinds = (anyRule o).kinds := by
  simp only [anyRule, apply_ite Ruling.kinds, kinds_typed, kinds_undefinedFor]
  rw [o.op_swap]

theorem kinds_pointerRule_swap (symmetric : s.compatibility.Symmetric) :
    (s.pointerRule o.swap).kinds = (s.pointerRule o).kinds := by
  have offset : isOffset o.swap = isOffset o := by
    rw [isOffset, isOffset, o.either_swap, o.op_swap]
  have first : (if o.left.type.isPointer then o else o.swap).op = o.op := by
    split <;> rfl
  have second : (if o.swap.left.type.isPointer then o.swap else o.swap.swap).op = o.op := by
    split <;> rfl
  simp only [pointerRule, apply_ite Ruling.kinds, kinds_incompatible, kinds_typed,
    kinds_undefinedFor]
  rw [first, second, offset, meets_swap o symmetric]

theorem kinds_nilRule_swap (symmetric : s.compatibility.Symmetric) :
    (s.nilRule o.swap).kinds = (s.nilRule o).kinds := by
  have known : ∀ (p : Operation) (b : Bool), (knownTruth p b).kinds = [] := fun _ _ => rfl
  simp only [nilRule, apply_ite Ruling.kinds, kinds_incompatible]
  rw [meets_swap o symmetric, o.op_swap]
  cases o.op <;> simp only [known, kinds_undefinedFor]

theorem kinds_booleanRule_swap (symmetric : s.compatibility.Symmetric) :
    (s.booleanRule o.swap).kinds = (s.booleanRule o).kinds := by
  simp only [booleanRule, apply_ite Ruling.kinds, kinds_fold, kinds_incompatible,
    kinds_undefinedFor]
  rw [meets_swap o symmetric, o.op_swap]

theorem kinds_stringRule_swap : (stringRule o.swap).kinds = (stringRule o).kinds := by
  simp only [stringRule, apply_ite Ruling.kinds, kinds_fold, kinds_incompatible,
    kinds_undefinedFor]
  rw [o.op_swap, o.swap_left, o.swap_right, bne_comm]

theorem kinds_integerRule_swap : (s.integerRule o.swap).kinds = (s.integerRule o).kinds := by
  simp only [integerRule, apply_ite Ruling.kinds, kinds_fold, kinds_shiftRule,
    kinds_incompatible, kinds_undefinedFor]
  rw [o.op_swap, o.swap_left, o.swap_right, Bool.and_comm]

/-- Unless both operands are integers, the one that has to be made whole does not depend on
their places. -/
theorem isSome_wholeRemainder?_swap
    (apart : (o.left.type.isInteger && o.right.type.isInteger) = false) :
    (wholeRemainder? o.swap).isSome = (wholeRemainder? o).isSome := by
  have left : wholeRemainder? o.swap =
      if o.right.type.isInteger then
        (wholeOperand? o.right o.left).map fun right => { o.swap with right }
      else if o.left.type.isInteger then
        (wholeOperand? o.left o.right).map fun left => { o.swap with left }
      else none := rfl
  rw [left]
  unfold wholeRemainder?
  by_cases leftWhole : o.left.type.isInteger = true
  · have rightWhole : o.right.type.isInteger = false := by
      simpa [leftWhole] using apart
    simp [leftWhole, rightWhole]
  · by_cases rightWhole : o.right.type.isInteger = true
    · simp [leftWhole, rightWhole]
    · simp [leftWhole, rightWhole]

/-- The remainder of numbers one of which is a float is refused unless the float is whole. -/
theorem kinds_floatRule_rem (rem : o.op = .rem) (left : o.left.type.isNumeric = true)
    (right : o.right.type.isNumeric = true) :
    (s.floatRule o).kinds = if (wholeRemainder? o).isSome then [] else [.operatorNotForType] := by
  unfold floatRule
  simp only [left, right, rem, Bool.and_self, Bool.not_true, Bool.false_eq_true, if_false,
    BEq.rfl, if_true]
  cases made : wholeRemainder? o with
  | none => rfl
  | some whole =>
      have recast : Recast o whole := .whole rem made
      obtain ⟨leftNumber, rightNumber⟩ := recast.isNumeric left right
      have op : whole.op = .rem := recast.op_eq.trans rem
      show (s.integerRule whole).kinds = []
      rw [integerRule_eq_fold s leftNumber rightNumber (by rw [op]; rfl) (by rw [op]; rfl),
        kinds_fold]

theorem kinds_floatRule_swap (float : o.either Descriptor.isFloat = true) :
    (s.floatRule o.swap).kinds = (s.floatRule o).kinds := by
  by_cases numbers : (o.left.type.isNumeric && o.right.type.isNumeric) = true
  · obtain ⟨left, right⟩ := Bool.and_eq_true_iff.1 numbers
    by_cases rem : o.op = .rem
    · have apart : (o.left.type.isInteger && o.right.type.isInteger) = false := by
        refine Bool.eq_false_iff.2 fun integers => ?_
        obtain ⟨leftWhole, rightWhole⟩ := Bool.and_eq_true_iff.1 integers
        rw [Operation.either, Descriptor.isFloat_of_isInteger leftWhole,
          Descriptor.isFloat_of_isInteger rightWhole] at float
        cases float
      rw [kinds_floatRule_rem o rem left right, kinds_floatRule_rem o.swap rem right left,
        isSome_wholeRemainder?_swap o apart]
    · have other : (o.op == .rem) = false := beq_eq_false_iff_ne.2 rem
      have other' : (o.swap.op == .rem) = false := other
      simp only [floatRule, other, other', Bool.false_eq_true, if_false,
        apply_ite Ruling.kinds, kinds_fold, kinds_incompatible, kinds_undefinedFor]
      rw [o.op_swap, o.swap_left, o.swap_right, Bool.and_comm]
  · have numbers' : ¬ (o.swap.left.type.isNumeric && o.swap.right.type.isNumeric) = true := by
      rwa [Bool.and_comm]
    simp [floatRule, numbers, numbers', kinds_incompatible]

/-- Operands that change places are refused with errors of the same kinds. -/
theorem kinds_settle_swap (symmetric : s.compatibility.Symmetric) :
    (s.settle o.swap).kinds = (s.settle o).kinds := by
  unfold settle
  rw [Operation.select_swap]
  cases selected : Handler.select o with
  | none => rfl
  | some handler =>
      cases handler with
      | logical => exact kinds_logicalRule_swap o
      | function => exact kinds_functionRule_swap o
      | array => exact kinds_sequenceRule_swap o symmetric
      | slice => exact kinds_sequenceRule_swap o symmetric
      | pointer => exact kinds_pointerRule_swap o symmetric
      | enum => rfl
      | struct => exact kinds_structRule_swap o
      | trait => exact kinds_traitRule_swap o symmetric
      | nil => exact kinds_nilRule_swap o symmetric
      | any => exact kinds_anyRule_swap o
      | bool => exact kinds_booleanRule_swap o symmetric
      | str => exact kinds_stringRule_swap o
      | float =>
          apply kinds_floatRule_swap
          exact Handler.either_of_select selected (by simp [Handler.priority])
      | unsigned => exact kinds_integerRule_swap o
      | signed => exact kinds_integerRule_swap o

end Refusals

/-! ## Equality -/

section Equality

variable {s : Solver} {o : Operation}

/-- Promoting leaves no number that is no float. -/
theorem isFloat_of_promote {v : Value} {c : Constant} (promoted : (promote v).constant = some c)
    (number : c.isNumber = true) : c.isFloat = true := by
  unfold promote at promoted
  split at promoted
  · cases promoted
    rfl
  · rename_i other
    rw [promoted] at other
    cases c with
    | float => rfl
    | int => cases other
    | uint => cases other
    | _ => cases number

theorem outcome_refuse (yields : o.op.yieldsBool = true) (kind : DiagnosticKind)
    (arguments : List String) (related : List Related) :
    (o.refuse kind arguments related).outcome = .typed .bool := by
  simp [Operation.refuse, Operation.bestEffort, yields]

theorem outcome_incompatible_swap (yields : o.op.yieldsBool = true) :
    o.swap.incompatible.outcome = o.incompatible.outcome := by
  have yields' : o.swap.op.yieldsBool = true := yields
  rw [Operation.incompatible, Operation.incompatible, outcome_refuse yields, outcome_refuse yields']

/-- Folding two constants for equality does not depend on their places. -/
theorem outcome_fold_swap (equality : o.op.isEquality = true)
    (alike : o.Alike) (type : Descriptor) :
    (o.swap.fold type).outcome = (o.fold type).outcome := by
  unfold Operation.fold
  rw [o.bothConst_swap, o.swap_left, o.swap_right, o.op_swap]
  cases left : o.left.constant with
  | none => cases o.right.constant <;> rfl
  | some l =>
      cases right : o.right.constant with
      | none => rfl
      | some r =>
          cases o.bothConst with
          | false => rfl
          | true =>
              simp only
              rw [Constant.fold_comm equality (alike l r left right)]
              cases Constant.fold o.op r l <;> rfl

/-- Several rules compare for equality without a look at constants. -/
theorem outcome_equality_swap (equality : o.op.isEquality = true) (strangers strangers' : Bool)
    (signature signature' : String) :
    (if strangers' then o.swap.incompatible
      else if o.swap.op.isEquality then .typed .bool
      else o.swap.undefinedFor signature').outcome =
    (if strangers then o.incompatible
      else if o.op.isEquality then .typed .bool
      else o.undefinedFor signature).outcome := by
  have compared : ∀ (p : Operation) (apart : Bool) (text : String), p.op.isEquality = true →
      (if apart then p.incompatible
        else if p.op.isEquality then .typed .bool
        else p.undefinedFor text).outcome = .typed .bool := by
    intro p apart text equal
    rw [if_pos equal]
    split
    · exact outcome_refuse (BinaryOp.yieldsBool_of_isEquality equal) _ _ _
    · rfl
  rw [compared o _ _ equality, compared o.swap _ _ equality]

/-- Pointers are compared for equality if they meet, whichever operand is one. -/
theorem pointerRule_of_isEquality (equality : o.op.isEquality = true) :
    s.pointerRule o = if !s.meets o true then o.incompatible else .typed .bool := by
  have comparison := BinaryOp.isComparison_of_isEquality equality
  have add : (o.op == .add) = false := BinaryOp.beq_eq_false_of_property equality rfl
  have sub : (o.op == .sub) = false := BinaryOp.beq_eq_false_of_property equality rfl
  have same : (if o.left.type.isPointer then o else o.swap).op = o.op := by
    split <;> rfl
  simp only [pointerRule, isOffset, same, add, sub, comparison, Bool.or_self, Bool.false_and,
    Bool.not_false, Bool.true_and, Bool.false_eq_true, if_false, if_true]

theorem outcome_pointerRule (equality : o.op.isEquality = true) :
    (s.pointerRule o).outcome = .typed .bool := by
  rw [pointerRule_of_isEquality equality]
  split
  · exact outcome_refuse (BinaryOp.yieldsBool_of_isEquality equality) _ _ _
  · rfl

theorem outcome_nilRule_swap (symmetric : s.compatibility.Symmetric)
    (equality : o.op.isEquality = true) : (s.nilRule o.swap).outcome = (s.nilRule o).outcome := by
  have yields := BinaryOp.yieldsBool_of_isEquality equality
  unfold nilRule
  rw [meets_swap o symmetric, o.swap_left, o.swap_right, o.op_swap]
  split
  · exact outcome_incompatible_swap yields
  · cases op : o.op with
    | eq => simp only [knownTruth, o.bothConst_swap, Bool.and_comm]
    | ne => simp only [knownTruth, o.bothConst_swap, Bool.and_comm]
    | _ =>
        rw [op] at equality
        cases equality

theorem outcome_booleanRule_swap (symmetric : s.compatibility.Symmetric)
    (equality : o.op.isEquality = true) (alike : o.Alike) :
    (s.booleanRule o.swap).outcome = (s.booleanRule o).outcome := by
  have yields := BinaryOp.yieldsBool_of_isEquality equality
  unfold booleanRule
  rw [meets_swap o symmetric, o.op_swap, if_pos equality, if_pos equality]
  split
  · exact outcome_incompatible_swap yields
  · exact outcome_fold_swap equality alike _

theorem outcome_stringRule_swap (equality : o.op.isEquality = true) (alike : o.Alike) :
    (stringRule o.swap).outcome = (stringRule o).outcome := by
  have yields := BinaryOp.yieldsBool_of_isEquality equality
  have add : ¬ (o.op == .add) = true := by
    rw [BinaryOp.beq_eq_false_of_property equality rfl]
    decide
  unfold stringRule
  rw [o.swap_left, o.swap_right, o.op_swap, bne_comm, if_neg add, if_neg add, if_pos equality,
    if_pos equality]
  split
  · exact outcome_incompatible_swap yields
  · exact outcome_fold_swap equality alike _

theorem outcome_integerRule_swap (equality : o.op.isEquality = true)
    (alike : o.left.type.isNumeric = true → o.right.type.isNumeric = true → o.Alike) :
    (s.integerRule o.swap).outcome = (s.integerRule o).outcome := by
  have comparison := BinaryOp.isComparison_of_isEquality equality
  have shift : ¬ o.op.isShift = true := by
    rw [BinaryOp.isShift_of_isComparison comparison]
    decide
  unfold integerRule
  rw [o.swap_left, o.swap_right, o.op_swap, Bool.and_comm, if_neg shift, if_neg shift,
    if_pos comparison, if_pos comparison]
  split
  · exact outcome_incompatible_swap (BinaryOp.yieldsBool_of_isComparison comparison)
  · rename_i numbers
    simp only [Bool.not_eq_true, Bool.not_eq_false', Bool.and_eq_true] at numbers
    exact outcome_fold_swap equality (alike numbers.1 numbers.2) _

/-- Numbers beside a float are made floats before they are compared. -/
theorem outcome_floatRule_swap (equality : o.op.isEquality = true) :
    (s.floatRule o.swap).outcome = (s.floatRule o).outcome := by
  have comparison := BinaryOp.isComparison_of_isEquality equality
  have rem : ¬ (o.op == .rem) = true := by
    rw [BinaryOp.beq_eq_false_of_property equality rfl]
    decide
  have other : ¬ (!o.op.isComparison && !o.op.isArithmetic) = true := by
    simp [comparison]
  unfold floatRule
  rw [o.swap_left, o.swap_right, o.op_swap, Bool.and_comm, if_neg rem, if_neg rem,
    if_neg other, if_neg other]
  dsimp only
  rw [if_pos comparison, if_pos comparison]
  split
  · exact outcome_incompatible_swap (BinaryOp.yieldsBool_of_isComparison comparison)
  · let p := { o with left := promote o.left, right := promote o.right }
    have alike : p.Alike := by
      intro l r left right leftNumber rightNumber
      rw [isFloat_of_promote left leftNumber, isFloat_of_promote right rightNumber]
    exact outcome_fold_swap (o := p) equality alike .bool

/-- **Operands that change places are equal to each other as before.** -/
theorem outcome_settle_swap (symmetric : s.compatibility.Symmetric)
    (equality : o.op.isEquality = true) (typed : o.Typed) :
    (s.settle o.swap).outcome = (s.settle o).outcome := by
  have comparison := BinaryOp.isComparison_of_isEquality equality
  have logical := BinaryOp.isLogical_of_isComparison comparison
  have yields := BinaryOp.yieldsBool_of_isComparison comparison
  have equality' : o.swap.op.isEquality = true := equality
  have yields' : o.swap.op.yieldsBool = true := yields
  unfold settle
  rw [Operation.select_swap]
  cases selected : Handler.select o with
  | none => exact (outcome_refuse yields' _ _ _).trans (outcome_refuse yields _ _ _).symm
  | some handler =>
      cases handler with
      | logical =>
          rw [Handler.isLogical_of_select selected] at logical
          cases logical
      | function => exact outcome_equality_swap equality _ _ _ _
      | array => exact outcome_equality_swap equality _ _ _ _
      | slice => exact outcome_equality_swap equality _ _ _ _
      | pointer => exact (outcome_pointerRule equality').trans (outcome_pointerRule equality).symm
      | enum => exact (outcome_refuse yields' _ _ _).trans (outcome_refuse yields _ _ _).symm
      | struct => exact outcome_equality_swap equality _ _ _ _
      | trait => exact outcome_equality_swap equality _ _ _ _
      | nil => exact outcome_nilRule_swap symmetric equality
      | any =>
          simp only [anyRule]
          rw [if_pos equality, if_pos equality']
      | bool =>
          have truth := Handler.either_of_select (p := Descriptor.isBool) selected
            (by simp [Handler.priority])
          exact outcome_booleanRule_swap symmetric equality
            (typed.alike_of_isA (k := .bool) rfl (by decide) truth)
      | str =>
          have text := Handler.either_of_select (p := Descriptor.isStr) selected
            (by simp [Handler.priority])
          exact outcome_stringRule_swap equality
            (typed.alike_of_isA (k := .str) rfl (by decide) text)
      | float => exact outcome_floatRule_swap equality
      | unsigned =>
          apply outcome_integerRule_swap equality
          apply typed.alike_of_select logical
          rw [selected]
          decide
      | signed =>
          apply outcome_integerRule_swap equality
          apply typed.alike_of_select logical
          rw [selected]
          decide

end Equality

/-! ## Two solves -/

/-- **Operands that change places are refused and are equal as before.**  The two solves report
errors of the same kinds, whatever the operands.  If constants are of their types, and the
operator asks for equality, the two solves have the same value: a truth value, which is known
from either side or from none. -/
theorem solve_swap (config : Config) (left right : Value) (operator : Operator)
    (e e' : Evaluation) :
    ((ofConfig config).errors left operator right e).map Diagnostic.kind =
        ((ofConfig config).errors right operator left e').map Diagnostic.kind ∧
      (operator.op.isEquality = true → left.Fits → right.Fits →
        ((ofConfig config).solve left operator right e).1 =
            ((ofConfig config).solve right operator left e').1 ∧
          ((ofConfig config).solve left operator right e).1.type = .bool ∧
          ∀ c, ((ofConfig config).solve left operator right e).1.constant = some c →
            ∃ b, c = .bool b) := by
  let s := ofConfig config
  let o := operation left operator right
  have symmetric : s.compatibility.Symmetric := structural_comm
  have swapped : operation right operator left = o.swap := rfl
  constructor
  · have kinds : (s.ruling right left operator).kinds = (s.ruling left right operator).kinds := by
      rw [ruling, ruling, swapped, Operation.settled_swap]
      exact kinds_settle_swap o.settled symmetric
    rw [errors_eq, errors_eq]
    simpa [Ruling.kinds, Ruling.refusals, Diagnostic.content, Function.comp_def] using kinds.symm
  · intro equality leftFits rightFits
    have settledEquality : o.settled.op.isEquality = true := by
      rw [Operation.op_settled]
      exact equality
    have outcome : (s.ruling right left operator).outcome =
        (s.ruling left right operator).outcome := by
      rw [ruling, ruling, swapped, Operation.settled_swap]
      apply outcome_settle_swap symmetric settledEquality
      exact Operation.typed_settled leftFits rightFits operator
    refine ⟨?_, ?_⟩
    · rw [solve_value, solve_value, outcome, Bool.and_comm]
    · rw [solve_value]
      have truth := isTruth_ruling s left right (BinaryOp.yieldsBool_of_isEquality equality)
      exact finish_of_isTruth truth _ _

/-- The largest `u64` has the bits of -1, which may stand behind an enum: they are equal from
either side. -/
theorem solve_swap_enum_eq :
    ∃ left right : Value,
      left = .ofConstant (.enumeration "E" (.scalar .i8)) (.int (-1)) ∧
      right = .uint .u64 18446744073709551615 ∧ left.Fits ∧ right.Fits ∧
      ((ofConfig .standard).solve left (.detached .eq) right .empty).1.constant =
        some (.bool true) ∧
      ((ofConfig .standard).solve right (.detached .eq) left .empty).1.constant =
        some (.bool true) := by
  have leftFits : (Value.ofConstant (.enumeration "E" (.scalar .i8)) (.int (-1))).Fits := by
    decide +kernel
  have rightFits : (Value.uint .u64 18446744073709551615).Fits := by
    decide +kernel
  have equal : ((ofConfig .standard).solve
      (.ofConstant (.enumeration "E" (.scalar .i8)) (.int (-1))) (.detached .eq)
      (.uint .u64 18446744073709551615) .empty).1.constant = some (.bool true) := by decide +kernel
  obtain ⟨-, same⟩ := solve_swap .standard _ _ (.detached .eq) .empty .empty
  refine ⟨_, _, rfl, rfl, leftFits, rightFits, equal, ?_⟩
  rw [← (same rfl leftFits rightFits).1]
  exact equal

end Solver

end BinarySolver
