/-
# BinarySolver.Proofs.Negation -- `!=` is the negation of `==`

Equality is ruled on by every rule, and constants are folded for it in four ways.  Asking a
rule for `!=` in the place of `==` leaves its choice, its type and its reports as they are,
and turns what is folded round (`Ruling.Opposed`); so the two solves are opposite truth
values or are both not known (`solve_negation`).

One rule does not negate: nil is equal to what holds nothing, and not equal to what holds
something, but both operands are asked, so an operand with a constant beside one without
were neither.  No such operands meet, as nil meets the types of which it is a value only,
and these have no constants (`constant_eq_none_of_meets`).
-/
import BinarySolver.Proofs.Exchange

namespace BinarySolver

set_option autoImplicit false

/-! ## Operators -/

namespace BinaryOp

variable {op : BinaryOp}

/-- The other one of `==` and `!=`. -/
def negate : BinaryOp → BinaryOp
  | eq => ne
  | ne => eq
  | op => op

theorem isLogical_negate (op : BinaryOp) : op.negate.isLogical = op.isLogical := by
  cases op <;> rfl

end BinaryOp

namespace Operation

/-- The operation with `==` and `!=` exchanged, and the operator at another place. -/
def negate (span : Span) (o : Operation) : Operation := { o with operator := ⟨o.op.negate, span⟩ }

variable (span : Span) (o : Operation)

theorem select_negate : Handler.select (o.negate span) = Handler.select o := by
  have logical : (o.negate span).op.isLogical = o.op.isLogical := BinaryOp.isLogical_negate _
  unfold Handler.select
  rw [logical]
  rfl

theorem next?_negate : (o.negate span).next? = o.next?.map (negate span) := by
  have unwrapped : (o.negate span).unwrapEnums? = o.unwrapEnums?.map (negate span) := by
    cases left : o.left.type.underlying? <;> cases right : o.right.type.underlying? <;>
      simp [unwrapEnums?, unwrapEnum?, negate, op, left, right]
  rw [next?, next?, select_negate, unwrapped]
  split <;> rfl

/-- The choice ends with the operator negated. -/
theorem settled_negate : (o.negate span).settled = o.settled.negate span :=
  settled_map (negate span) (next?_negate span) o

end Operation

/-! ## Constants -/

namespace Constant

/-- The other truth value. -/
def negated : Constant → Constant
  | bool b => bool !b
  | c => c

end Constant

/-- What is folded to the other truth value. -/
def Folding.negated : Folding → Folding
  | value c => value c.negated
  | folding => folding

/-- In every representation `!=` folds to the negation of `==`, also of floats that are no
numbers. -/
theorem Constant.fold_ne (l r : Constant) : fold .ne l r = (fold .eq l r).negated := by
  unfold fold
  cases l with
  | bool x => cases r.asBool? <;> rfl
  | str x => cases r.asText? <;> rfl
  | float x => cases r.asFloat? <;> rfl
  | int x => cases r.asInt64? <;> cases r.asUInt64? <;> rfl
  | uint x => cases r.asUInt64? <;> rfl

/-! ## Nil -/

/-- The categories of the plain types of which nil is a value. -/
def Category.isNullable : Category → Bool
  | nil | voidptr | fn | trait | any => true
  | _ => false

namespace Descriptor

variable {d l r : Descriptor}

theorem isNullable_of_isPlain (plain : d.isPlain = true) :
    d.isNullable = d.category.isNullable := by
  have bracket := startsWith_bracket_of_isPlain plain
  have map : d.isMap = false := by
    rw [isMap, bracket, Bool.and_false, Bool.false_and, Bool.false_and]
  rw [isNullable, isPointer_of_isPlain plain, isSlice_of_startsWith bracket, map, isNil, isFunc,
    isTrait, isAny]
  simp only [isA_of_isPlain plain]
  cases d.category <;> rfl

theorem isNullable_of_isNumeric (number : d.isNumeric = true) : d.isNullable = false := by
  obtain ⟨plain, category⟩ := isNumeric_iff.1 number
  rw [isNullable_of_isPlain plain]
  generalize d.category = k at category ⊢
  cases k <;> first | rfl | cases category

/-- Nil is a value of no type that has constants. -/
theorem isNullable_of_fits {c : Constant} (fits : c.fits d = true) : d.isNullable = false := by
  have other : ∀ k : Category, k.isNullable = false → d.isA k = true → d.isNullable = false := by
    intro k bare kind
    obtain ⟨category, plain⟩ := isA_iff.1 kind
    rw [isNullable_of_isPlain plain, category, bare]
  have numeric : c.isNumber = true → d.isNullable = false := by
    intro number
    rw [Constant.isNumber_eq_of_fits fits] at number
    exact isNullable_of_isNumeric number
  cases c with
  | bool => exact other .bool rfl fits
  | str => exact other .str rfl fits
  | _ => exact numeric rfl

/-- Nil meets the types of which it is a value, and no others. -/
theorem isNullable_of_structural (left : l.aliasOf = none) (right : r.aliasOf = none)
    (nil : l.isNil = true ∨ r.isNil = true) (meets : structural ⟨false, true⟩ l r = true) :
    l.isNullable = true ∧ r.isNullable = true := by
  have any : ∀ {d : Descriptor}, d.isAny = true → d.isNullable = true := by
    intro d any
    rw [isNullable, any, Bool.or_true]
  rw [structural_eq_ite, resolve_of_aliasOf left, resolve_of_aliasOf right] at meets
  rcases nil with nil | nil
  · have bare : l.isAny = false := isA_of_isA nil (by decide)
    simp only [bare, nil, Bool.not_false, Bool.true_and, Bool.false_or, if_true] at meets
    refine ⟨isNullable_of_isNil nil, ?_⟩
    split at meets
    · exact any ‹_›
    · exact meets
  · have bare : r.isAny = false := isA_of_isA nil (by decide)
    simp only [bare, nil, Bool.not_false, Bool.true_and, Bool.or_false, if_true] at meets
    refine ⟨?_, isNullable_of_isNil nil⟩
    split at meets
    · exact any ‹_›
    split at meets
    · exact isNullable_of_isNil ‹_›
    · exact meets

end Descriptor

/-- An operand whose type has nil as a value has no constant. -/
theorem Value.Fits.constant_eq_none {v : Value} (fits : v.Fits) (resolved : v.type.aliasOf = none)
    (nullable : v.type.isNullable = true) : v.constant = none := by
  cases known : v.constant with
  | none => rfl
  | some c =>
      have bare : v.type.isEnum = false := by
        refine Bool.eq_false_iff.2 fun enum => ?_
        obtain ⟨category, plain⟩ := Descriptor.isA_iff.1 enum
        rw [Descriptor.isNullable_of_isPlain plain, category] at nullable
        cases nullable
      have typed := fits c known
      rw [Descriptor.unwrap_of_isEnum_eq_false bare resolved] at typed
      rw [Descriptor.isNullable_of_fits typed] at nullable
      cases nullable

/-! ## Rulings -/

/-- Two rulings report diagnostics of the same kinds, and fold truth values of which one is
the negation of the other, or none. -/
structure Ruling.Opposed (r r' : Ruling) : Prop where
  kinds : r.diagnostics.map Diagnostic.kind = r'.diagnostics.map Diagnostic.kind
  constant : r'.outcome.constant = r.outcome.constant.map Constant.negated

namespace Ruling.Opposed

variable {r r' t t' : Ruling}

/-- Rulings between which a rule chooses are opposed if it chooses alike. -/
theorem ite {p : Prop} [Decidable p] (first : r.Opposed r') (second : t.Opposed t') :
    (if p then r else t).Opposed (if p then r' else t') := by
  split
  · exact first
  · exact second

theorem typed (type : Descriptor) : (Ruling.typed type).Opposed (.typed type) := ⟨rfl, rfl⟩

theorem refused (o p : Operation) (kind : DiagnosticKind) (arguments arguments' : List String)
    (related related' : List Related) :
    (o.refuse kind arguments related).Opposed (p.refuse kind arguments' related') :=
  ⟨rfl, rfl⟩

end Ruling.Opposed

namespace Solver

section Rules

variable {s : Solver} {o : Operation} {span : Span}

theorem op_negate (equal : o.op = .eq) : (o.negate span).op = .ne := by
  show o.op.negate = .ne
  rw [equal]
  rfl

/-- Constants are folded to the negation. -/
theorem opposed_fold (equal : o.op = .eq) :
    (o.fold .bool).Opposed ((o.negate span).fold .bool) := by
  have left : (o.negate span).left = o.left := rfl
  have right : (o.negate span).right = o.right := rfl
  have known : (o.negate span).bothConst = o.bothConst := rfl
  unfold Operation.fold
  rw [left, right, known, op_negate equal, equal]
  cases o.left.constant with
  | none => exact .typed _
  | some l =>
      cases o.right.constant with
      | none => exact .typed _
      | some r =>
          cases o.bothConst with
          | false => exact .typed _
          | true =>
              simp only [Constant.fold_ne]
              cases folded : Constant.fold .eq l r with
              | value c => exact ⟨rfl, rfl⟩
              | undefined => exact ⟨rfl, rfl⟩
              | zeroDivisor =>
                  rcases Constant.fold_eq_zeroDivisor folded with div | rem
                  · cases div
                  · cases rem

/-- Several rules compare for equality without a look at constants. -/
theorem opposed_equality (equal : o.op = .eq) (strangers : Bool) (signature signature' : String) :
    (if strangers then o.incompatible
      else if o.op.isEquality then .typed .bool
      else o.undefinedFor signature).Opposed
    (if strangers then (o.negate span).incompatible
      else if (o.negate span).op.isEquality then .typed .bool
      else (o.negate span).undefinedFor signature') := by
  rw [op_negate equal, equal]
  exact .ite (.refused ..) (.typed _)

theorem opposed_pointerRule (equal : o.op = .eq) :
    (s.pointerRule o).Opposed (s.pointerRule (o.negate span)) := by
  have equality : o.op.isEquality = true := by
    rw [equal]
    rfl
  have equality' : (o.negate span).op.isEquality = true := by
    rw [op_negate equal]
    rfl
  rw [pointerRule_of_isEquality equality, pointerRule_of_isEquality equality']
  exact .ite (.refused ..) (.typed _)

/-- Nil meets operands without a constant only, of which it is known that they are equal. -/
theorem opposed_nilRule (equal : o.op = .eq) (bare : s.meets o false = true →
    o.left.constant = none ∧ o.right.constant = none) :
    (s.nilRule o).Opposed (s.nilRule (o.negate span)) := by
  have meets : s.meets (o.negate span) false = s.meets o false := rfl
  unfold nilRule
  rw [meets, op_negate equal, equal]
  split
  · exact .refused ..
  · rename_i met
    obtain ⟨left, right⟩ := bare (by simpa using met)
    have leftBare : (o.negate span).left.constant = none := left
    have known : (o.negate span).bothConst = o.bothConst := rfl
    simp only [knownTruth, left, right, leftBare, known]
    cases o.bothConst <;> exact ⟨rfl, rfl⟩

theorem opposed_booleanRule (equal : o.op = .eq) :
    (s.booleanRule o).Opposed (s.booleanRule (o.negate span)) := by
  have meets : s.meets (o.negate span) true = s.meets o true := rfl
  unfold booleanRule
  rw [meets, op_negate equal, equal]
  exact .ite (.refused ..) (opposed_fold equal)

theorem opposed_stringRule (equal : o.op = .eq) :
    (stringRule o).Opposed (stringRule (o.negate span)) := by
  unfold stringRule
  rw [op_negate equal, equal]
  exact .ite (.refused ..) (opposed_fold equal)

theorem opposed_integerRule (equal : o.op = .eq) :
    (s.integerRule o).Opposed (s.integerRule (o.negate span)) := by
  unfold integerRule
  rw [op_negate equal, equal]
  exact .ite (.refused ..) (opposed_fold equal)

theorem opposed_floatRule (equal : o.op = .eq) :
    (s.floatRule o).Opposed (s.floatRule (o.negate span)) := by
  let p := { o with left := promote o.left, right := promote o.right }
  have promoted : p.op = .eq := equal
  unfold floatRule
  rw [op_negate equal, equal]
  exact .ite (.refused ..) (opposed_fold promoted)

/-- **The rulings on `==` and `!=` are opposed**, whichever rule is selected. -/
theorem opposed_settle (config : Config) (equal : o.op = .eq) (typed : o.Typed) :
    ((ofConfig config).settle o).Opposed ((ofConfig config).settle (o.negate span)) := by
  unfold settle
  rw [Operation.select_negate]
  cases selected : Handler.select o with
  | none => exact .refused ..
  | some handler =>
      cases handler with
      | logical =>
          have logical := Handler.isLogical_of_select selected
          rw [equal] at logical
          cases logical
      | function => exact opposed_equality equal _ _ _
      | array => exact opposed_equality equal _ _ _
      | slice => exact opposed_equality equal _ _ _
      | pointer => exact opposed_pointerRule equal
      | enum => exact .refused ..
      | struct => exact opposed_equality equal _ _ _
      | trait => exact opposed_equality equal _ _ _
      | nil =>
          refine opposed_nilRule equal fun meets => ?_
          have nil := Handler.either_of_select (p := Descriptor.isNil) selected
            (by simp [Handler.priority])
          obtain ⟨left, right⟩ := Descriptor.isNullable_of_structural typed.leftResolved
            typed.rightResolved (Bool.or_eq_true_iff.1 nil) meets
          exact ⟨typed.left.constant_eq_none typed.leftResolved left,
            typed.right.constant_eq_none typed.rightResolved right⟩
      | any =>
          unfold anyRule
          rw [op_negate equal, equal]
          exact .typed _
      | bool => exact opposed_booleanRule equal
      | str => exact opposed_stringRule equal
      | float => exact opposed_floatRule equal
      | unsigned => exact opposed_integerRule equal
      | signed => exact opposed_integerRule equal

end Rules

/-! ## Two solves -/

section Solves

variable {left right : Value}

theorem opposed_ruling (config : Config) (leftFits : left.Fits) (rightFits : right.Fits)
    (span span' : Span) :
    ((ofConfig config).ruling left right ⟨.eq, span⟩).Opposed
      ((ofConfig config).ruling left right ⟨.ne, span'⟩) := by
  let o := operation left ⟨.eq, span⟩ right
  have negated : operation left ⟨.ne, span'⟩ right = o.negate span' := rfl
  have equal : o.settled.op = .eq := by
    rw [Operation.op_settled]
    rfl
  rw [ruling, ruling, negated, Operation.settled_negate]
  exact opposed_settle config equal (Operation.typed_settled leftFits rightFits ⟨.eq, span⟩)

/-- **`!=` is the negation of `==`.**  If constants are of their types, the two solves are of
type `bool`, report diagnostics of the same kinds, and either both are not known or one is
known to be the negation of the other. -/
theorem solve_negation (config : Config) (leftFits : left.Fits) (rightFits : right.Fits)
    (span span' : Span) (e e' : Evaluation) :
    let equal := (ofConfig config).solve left ⟨.eq, span⟩ right e
    let unequal := (ofConfig config).solve left ⟨.ne, span'⟩ right e'
    (equal.1.type = .bool ∧ unequal.1.type = .bool) ∧
      (equal.2.diagnostics.drop e.diagnostics.length).map Diagnostic.kind =
        (unequal.2.diagnostics.drop e'.diagnostics.length).map Diagnostic.kind ∧
      ((equal.1.constant = none ∧ unequal.1.constant = none) ∨
        ∃ b, equal.1.constant = some (.bool b) ∧ unequal.1.constant = some (.bool !b)) := by
  intro equal unequal
  let s := ofConfig config
  have opposed := opposed_ruling config leftFits rightFits span span'
  have truth : (s.ruling left right ⟨.eq, span⟩).outcome.IsTruth :=
    isTruth_ruling s left right rfl
  have truth' : (s.ruling left right ⟨.ne, span'⟩).outcome.IsTruth :=
    isTruth_ruling s left right rfl
  have value : equal.1 = _ := solve_value s left right ⟨.eq, span⟩ e
  have value' : unequal.1 = _ := solve_value s left right ⟨.ne, span'⟩ e'
  refine ⟨⟨?_, ?_⟩, ?_, ?_⟩
  · rw [value]
    exact (finish_of_isTruth truth _ _).1
  · rw [value']
    exact (finish_of_isTruth truth' _ _).1
  · simp only [equal, unequal, solve_diagnostics, List.drop_left]
    exact opposed.kinds
  · rw [value, value', constant_finish_of_isTruth truth, constant_finish_of_isTruth truth',
      opposed.constant]
    cases left.isConst && right.isConst with
    | false => exact .inl ⟨rfl, rfl⟩
    | true =>
        cases folded : (s.ruling left right ⟨.eq, span⟩).outcome.constant with
        | none => exact .inl ⟨rfl, rfl⟩
        | some c =>
            obtain ⟨b, rfl⟩ := truth.constant c folded
            exact .inr ⟨b, rfl, rfl⟩

/-- Nil is equal to nil, and an enum of -1 to the largest word, so they are known not to be
unequal. -/
theorem solve_negation_nil_enum :
    ∃ enum word : Value, enum = .ofConstant (.enumeration "E" (.scalar .i32)) (.int (-1)) ∧
      word = .uint .u64 0xFFFFFFFFFFFFFFFF ∧
      Value.nil.Fits ∧ enum.Fits ∧ word.Fits ∧
      ((ofConfig .standard).solve .nil ⟨.eq, .detached⟩ .nil .empty).1.constant =
        some (.bool true) ∧
      ((ofConfig .standard).solve .nil ⟨.ne, .detached⟩ .nil .empty).1.constant =
        some (.bool false) ∧
      ((ofConfig .standard).solve enum ⟨.eq, .detached⟩ word .empty).1.constant =
        some (.bool true) ∧
      ((ofConfig .standard).solve enum ⟨.ne, .detached⟩ word .empty).1.constant =
        some (.bool false) := by
  have opposite : ∀ {left right : Value}, left.Fits → right.Fits →
      ((ofConfig .standard).solve left ⟨.eq, .detached⟩ right .empty).1.constant =
        some (.bool true) →
      ((ofConfig .standard).solve left ⟨.ne, .detached⟩ right .empty).1.constant =
        some (.bool false) := by
    intro left right leftFits rightFits known
    obtain ⟨-, -, ⟨unknown, -⟩ | ⟨b, equal, unequal⟩⟩ :=
      solve_negation .standard leftFits rightFits .detached .detached .empty .empty
    · rw [unknown] at known
      cases known
    · rw [known] at equal
      cases equal
      exact unequal
  have nilFits : Value.nil.Fits := nofun
  have enumFits : (Value.ofConstant (.enumeration "E" (.scalar .i32)) (.int (-1))).Fits := by
    decide +kernel
  have wordFits : (Value.uint .u64 0xFFFFFFFFFFFFFFFF).Fits := by
    decide +kernel
  have nilEqual : ((ofConfig .standard).solve .nil ⟨.eq, .detached⟩ .nil .empty).1.constant =
      some (.bool true) := by decide +kernel
  have wordsEqual : ((ofConfig .standard).solve
      (.ofConstant (.enumeration "E" (.scalar .i32)) (.int (-1))) ⟨.eq, .detached⟩
        (.uint .u64 0xFFFFFFFFFFFFFFFF) .empty).1.constant = some (.bool true) := by decide +kernel
  exact ⟨_, _, rfl, rfl, nilFits, enumFits, wordFits, nilEqual,
    opposite nilFits nilFits nilEqual, wordsEqual, opposite enumFits wordFits wordsEqual⟩

end Solves

end Solver

end BinarySolver
