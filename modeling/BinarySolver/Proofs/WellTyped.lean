/-
# BinarySolver.Proofs.WellTyped -- constants keep to their types

A well-formed value is known with a constant of its type, or is the nil literal, or is
not known and has no constant.  A chain of solves that begins with well-formed values
and does not shift makes well-formed values only: every known result is of its type and
within its range, and as narrow as can be unless a zero stands in for a quotient by zero
(`solve_wellFormed`).

The one thing that has to be kept is that a text never stands where a number is typed:
numbers are typed anew by their narrowest category, and truth values are typed `bool`.
-/
import BinarySolver.Proofs.Folding
import BinarySolver.Proofs.Ranking

namespace BinarySolver

set_option autoImplicit false

/-! ## Constants and types -/

namespace Constant

/-- A constant is of a plain type whose category its representation is for. -/
def fits (c : Constant) (d : Descriptor) : Bool :=
  match c with
  | bool _ => d.isBool
  | str _ => d.isStr
  | float _ => d.isFloat
  | int _ => d.isSignedInteger
  | uint _ => d.isUnsignedInteger

/-- The whole number that an integer payload is. -/
def integer? : Constant → Option Int
  | int x => some x.toInt
  | uint x => some x.toNat
  | _ => none

/-- The constant is of the type, which stands behind nothing, and a whole number is
within the range of its category. -/
structure WellTyped (word : WordSize) (c : Constant) (type : Descriptor) : Prop where
  fits : c.fits type = true
  bare : type.unwrap = type
  holds : ∀ n, c.integer? = some n → type.category.Holds word n

end Constant

/-- A value is known with a constant of its type, taken from behind aliases and enums,
or is nil and known without one, or has none. -/
def Value.WellFormed (v : Value) : Prop :=
  match v.constant with
  | some c => v.isConst = true ∧ c.fits v.type.unwrap = true
  | none => v.isConst = true → v.type.unwrap.isNil = true

/-- A constant that the value has is of the type behind its aliases and enums. -/
def Value.Fits (v : Value) : Prop := ∀ c, v.constant = some c → c.fits v.type.unwrap = true

instance (v : Value) : Decidable v.Fits :=
  inferInstanceAs (Decidable (∀ c ∈ v.constant, c.fits v.type.unwrap = true))

namespace Value

variable {v : Value}

theorem WellFormed.fits (wellFormed : v.WellFormed) : v.Fits := by
  intro c known
  unfold WellFormed at wellFormed
  rw [known] at wellFormed
  exact wellFormed.2

/-- The choice of a rule leaves constants in their types. -/
theorem Fits.settled_left (fits : v.Fits) (right : Value) (operator : Operator) :
    (Solver.operation v operator right).settled.left.Fits := by
  intro c known
  obtain ⟨type, settled, -⟩ := Solver.settled_left v right operator
  rw [settled] at known
  rw [Solver.unwrap_settled_left]
  exact fits c known

theorem Fits.settled_right (fits : v.Fits) (left : Value) (operator : Operator) :
    (Solver.operation left operator v).settled.right.Fits := by
  intro c known
  obtain ⟨type, settled, -⟩ := Solver.settled_right left v operator
  rw [settled] at known
  rw [Solver.unwrap_settled_right]
  exact fits c known

end Value

namespace Constant

variable {c : Constant} {word : WordSize}

/-- The constants of the types of numbers are numbers, and no others are. -/
theorem isNumber_eq_of_fits {d : Descriptor} (fits : c.fits d = true) :
    c.isNumber = d.isNumeric := by
  have other : ∀ k : Category, k.isNumeric = false → d.isA k = true → d.isNumeric = false := by
    intro k number kind
    rw [Descriptor.isNumeric, (Descriptor.isA_iff.1 kind).1, number, Bool.and_false]
  unfold Constant.fits at fits
  cases c with
  | bool => exact (other .bool rfl fits).symm
  | str => exact (other .str rfl fits).symm
  | float => simp [isNumber, Descriptor.isNumeric_eq_or, fits]
  | int => simp [isNumber, Descriptor.isNumeric_eq_or, Descriptor.isInteger_eq_or, fits]
  | uint => simp [isNumber, Descriptor.isNumeric_eq_or, Descriptor.isInteger_eq_or, fits]

theorem fits_isNumeric {d : Descriptor} (number : d.isNumeric = true) (fits : c.fits d = true) :
    c.isNumber = true := by
  rw [isNumber_eq_of_fits fits, number]

/-- A number is of its narrowest category. -/
theorem wellTyped_minimal (word : WordSize) (number : c.isNumber = true) :
    ∃ category, c.minimalCategory? = some category ∧ c.WellTyped word (.scalar category) ∧
      ∀ n, c.integer? = some n → category.Narrowest word n := by
  cases c with
  | bool => cases number
  | str => cases number
  | float x =>
      refine ⟨_, rfl, ⟨?_, Descriptor.unwrap_scalar _, nofun⟩, nofun⟩
      exact (Descriptor.isFloat_scalar _).trans (Width.isFloat_minimalFloat x)
  | int x =>
      refine ⟨_, rfl, ⟨?_, Descriptor.unwrap_scalar _, fun n h => ?_⟩, fun n h => ?_⟩
      · exact (Descriptor.isSignedInteger_scalar _).trans (Width.isSignedInteger_minimalSigned x)
      · cases h
        exact Width.holds_minimalSigned word x
      · cases h
        exact Width.narrowest_minimalSigned word x
  | uint x =>
      refine ⟨_, rfl, ⟨?_, Descriptor.unwrap_scalar _, fun n h => ?_⟩, fun n h => ?_⟩
      · exact (Descriptor.isUnsignedInteger_scalar _).trans
          (Width.isUnsignedInteger_minimalUnsigned x)
      · cases h
        exact Width.holds_minimalUnsigned word x
      · cases h
        exact Width.narrowest_minimalUnsigned word x

theorem wellTyped_bool (word : WordSize) (b : Bool) : (bool b).WellTyped word .bool :=
  ⟨Descriptor.isA_scalar .bool, Descriptor.unwrap_scalar .bool, nofun⟩

theorem wellTyped_str (word : WordSize) (text : String) :
    (str text).WellTyped word (.scalar .str) :=
  ⟨Descriptor.isA_scalar .str, Descriptor.unwrap_scalar .str, nofun⟩

/-- The zero that stands in for a quotient is of every type of numbers. -/
theorem wellTyped_zero (word : WordSize) {d : Descriptor} (number : d.isNumeric = true)
    (resolved : d.aliasOf = none) :
    (zero d.category).WellTyped word d := by
  obtain ⟨plain, category⟩ := Descriptor.isNumeric_iff.1 number
  refine ⟨?_, Descriptor.unwrap_of_isNumeric number resolved, ?_⟩
  · unfold zero
    split
    · rename_i float
      rw [fits, Descriptor.isFloat, plain, float, Bool.and_self]
    split
    · rename_i unsigned
      rw [fits, Descriptor.isUnsignedInteger, plain, unsigned, Bool.and_self]
    · rename_i float unsigned
      rw [fits, Descriptor.isSignedInteger, plain, Bool.true_and]
      simpa [Category.isNumeric, Category.isInteger, float, unsigned] using category
  · intro n whole
    have integer : d.category.isFloat = false → d.category.isInteger = true := by
      intro float
      simpa [Category.isNumeric, float] using category
    unfold zero at whole
    split at whole
    · cases whole
    · rename_i float
      have zero : n = 0 := by
        split at whole <;> exact (Option.some.inj whole).symm
      rw [zero]
      exact Category.holds_zero word (integer (Bool.eq_false_iff.2 float))

end Constant

/-! ## Rulings -/

namespace Solver

variable {word : WordSize}

/-- A constant that is made narrow is well typed if truth values and texts, which have
no narrowest category, are given their types. -/
theorem wellTyped_narrowed (word : WordSize) {outcome : Outcome} {c : Constant}
    (minimal : outcome.width = .minimal)
    (truth : ∀ b, c = .bool b → outcome.type = .bool)
    (text : ∀ x, c = .str x → outcome.type = .scalar .str) :
    c.WellTyped word (narrowed outcome c) ∧
      ∀ n, c.integer? = some n → (narrowed outcome c).category.Narrowest word n := by
  cases number : c.isNumber with
  | true =>
      obtain ⟨category, narrow, typed, narrowest⟩ := Constant.wellTyped_minimal word number
      have type : narrowed outcome c = .scalar category := by
        rw [narrowed, minimal, narrow]
        rfl
      rw [type]
      exact ⟨typed, narrowest⟩
  | false =>
      cases c with
      | bool b =>
          have type : narrowed outcome (.bool b) = .bool := by
            rw [narrowed, minimal, truth b rfl]
            rfl
          rw [type]
          exact ⟨Constant.wellTyped_bool word b, nofun⟩
      | str x =>
          have type : narrowed outcome (.str x) = .scalar .str := by
            rw [narrowed, minimal, text x rfl]
            rfl
          rw [type]
          exact ⟨Constant.wellTyped_str word x, nofun⟩
      | _ => cases number

/-- The constant of a ruling is well typed, and as narrow as can be unless a division
by zero is reported. -/
def Sound (word : WordSize) (r : Ruling) : Prop :=
  ∀ c, r.outcome.constant = some c →
    c.WellTyped word (narrowed r.outcome c) ∧
      ((∀ d ∈ r.diagnostics, d.kind ≠ .divideByZero) →
        ∀ n, c.integer? = some n → (narrowed r.outcome c).category.Narrowest word n)

theorem sound_of_constant_eq_none {r : Ruling} (unknown : r.outcome.constant = none) :
    Sound word r := by
  intro c known
  rw [unknown] at known
  cases known

/-- Folding is sound if the type that is given is `bool` for truth values, a text for
joined texts, and a number for quotients. -/
theorem sound_fold {p : Operation} {type : Descriptor}
    (truth : p.op.yieldsBool = true → type = .bool)
    (text : p.op = .add → ∀ x, p.left.constant = some (.str x) → type = .scalar .str)
    (quotient : p.op = .div ∨ p.op = .rem → type.isNumeric = true ∧ type.aliasOf = none) :
    Sound word (p.fold type) := by
  have folds := p.fold_folds type
  generalize p.fold type = r at folds ⊢
  cases folds with
  | typed => exact sound_of_constant_eq_none rfl
  | undefined => exact sound_of_constant_eq_none rfl
  | @value l r c left right folded =>
      intro c' known
      cases known
      have kinds := Constant.fold_eq_value folded
      have ofTruth : ∀ b, c = .bool b → type = .bool := by
        intro b same
        rcases kinds with ⟨yields, -⟩ | ⟨-, _, _, -, other⟩ | ⟨-, -, other⟩
        · exact truth yields
        · rw [same] at other
          cases other
        · rw [same] at other
          cases other
      have ofText : ∀ x, c = .str x → type = .scalar .str := by
        intro x same
        rcases kinds with ⟨-, _, other⟩ | ⟨add, y, _, first, -⟩ | ⟨-, -, other⟩
        · rw [same] at other
          cases other
        · exact text add y (first ▸ left)
        · rw [same] at other
          cases other
      let outcome : Outcome := { type, constant := some c, width := .minimal }
      have minimal : outcome.width = .minimal := rfl
      obtain ⟨typed, narrowest⟩ := wellTyped_narrowed word minimal ofTruth ofText
      exact ⟨typed, fun _ => narrowest⟩
  | zeroDivisor left right folded =>
      intro c known
      cases known
      obtain ⟨number, resolved⟩ := quotient (Constant.fold_eq_zeroDivisor folded)
      exact ⟨Constant.wellTyped_zero word number resolved,
        fun silent => absurd rfl (silent _ (.head _))⟩

/-- What is ruled on operands of their types is sound, unless they are shifted. -/
theorem Verdict.sound {s : Solver} {o : Operation} {r : Ruling} (verdict : Verdict s o r)
    (shift : o.op.isShift = false)
    (fits : o.left.Fits)
    (left : o.left.type.aliasOf = none) (right : o.right.type.aliasOf = none) :
    Sound word r := by
  cases verdict with
  | refused => exact sound_of_constant_eq_none rfl
  | swapped => exact sound_of_constant_eq_none rfl
  | compared => exact sound_of_constant_eq_none rfl
  | moved => exact sound_of_constant_eq_none rfl
  | known b =>
      intro c known
      simp only [knownTruth, Ruling.of] at known
      split at known
      · cases known
        refine ⟨Constant.wellTyped_bool word b, fun _ n whole => ?_⟩
        cases whole
      · cases known
  | truth recast yields =>
      refine sound_fold (fun _ => rfl) (fun add => ?_) (fun quotient => ?_)
      · rw [recast.op_eq.symm.trans add] at yields
        cases yields
      · rw [recast.op_eq] at quotient
        rcases quotient with div | rem
        · rw [div] at yields
          cases yields
        · rw [rem] at yields
          cases yields
  | joined add =>
      refine sound_fold (fun yields => ?_) (fun _ _ _ => rfl) (fun quotient => ?_)
      · rw [add] at yields
        cases yields
      · rw [add] at quotient
        rcases quotient with div | rem
        · cases div
        · cases rem
  | @computed p recast leftNumber rightNumber number =>
      refine sound_fold (fun yields => ?_) (fun add x text => ?_) (fun _ => ?_)
      · rw [recast.op_eq, number] at yields
        cases yields
      · rw [recast.op_eq] at add
        rcases recast.text text with rem | text
        · rw [add] at rem
          cases rem
        · have typed := fits _ text
          rw [Descriptor.unwrap_of_isNumeric leftNumber left] at typed
          have other := Constant.fits_isNumeric leftNumber typed
          cases other
      · have numbers := recast.isNumeric leftNumber rightNumber
        have resolved := recast.types (P := (·.aliasOf = none)) rfl left right
        exact wider_of (P := fun d => d.isNumeric = true ∧ d.aliasOf = none)
          ⟨numbers.1, resolved.1⟩ ⟨numbers.2, resolved.2⟩
  | shifted shifts =>
      rw [shift] at shifts
      cases shifts

/-- The ruling on well-formed values is sound, unless they are shifted. -/
theorem ruling_sound (word : WordSize) (s : Solver) {left : Value} (right : Value)
    {operator : Operator} (wellFormed : left.WellFormed) (shift : operator.op.isShift = false) :
    Sound word (s.ruling left right operator) := by
  have leftResolved := aliasOf_settled_left left right operator
  have rightResolved := aliasOf_settled_right left right operator
  refine (settle_verdict s _).sound ?_ ?_ leftResolved rightResolved
  · rw [Operation.op_settled]
    exact shift
  · exact wellFormed.fits.settled_left right operator

/-- The values made of well-formed ones by a chain of solves that do not shift, each
with a solver and an evaluation of its own. -/
inductive Chained : Value → Prop where
  | given {v : Value} : v.WellFormed → Chained v
  | solved (s : Solver) {left right : Value} {operator : Operator} (e : Evaluation) :
      Chained left → Chained right → operator.op.isShift = false →
      Chained (s.solve left operator right e).1

/-- What a finished value says of itself: it is known exactly when it has a constant,
and is emitted as that constant of its type exactly then. -/
structure Told (v : Value) : Prop where
  isConst : v.isConst = v.constant.isSome
  initializer : v.initializer = v.constant.map (fun c => .ofConstant c v.type)

theorem told_solve (s : Solver) (left right : Value) (operator : Operator) (e : Evaluation) :
    Told (s.solve left operator right e).1 := by
  rw [solve_value]
  rcases finish_cases (s.ruling left right operator).outcome (left.isConst && right.isConst)
    operator.span with unknown | ⟨c, -, -, known⟩
  · rw [unknown]
    exact ⟨rfl, rfl⟩
  · rw [known]
    exact ⟨rfl, rfl⟩

section Solve

variable (s : Solver) {left : Value} (right : Value) {operator : Operator} (e : Evaluation)

/-- A known result is the constant of a sound ruling, and both operands are known. -/
theorem solve_of_constant_eq_some {c : Constant} (wellFormed : left.WellFormed)
    (shift : operator.op.isShift = false)
    (known : (s.solve left operator right e).1.constant = some c) :
    (left.isConst = true ∧ right.isConst = true) ∧
      c.WellTyped s.config.wordSize (s.solve left operator right e).1.type ∧
      ((∀ d ∈ (s.ruling left right operator).diagnostics, d.kind ≠ .divideByZero) →
        ∀ n, c.integer? = some n →
          (s.solve left operator right e).1.type.category.Narrowest s.config.wordSize n) := by
  rw [solve_value] at known ⊢
  rcases finish_cases (s.ruling left right operator).outcome (left.isConst && right.isConst)
    operator.span with unknown | ⟨d, constant, bothConst, finished⟩
  · rw [unknown] at known
    cases known
  · rw [finished] at known ⊢
    cases known
    exact ⟨Bool.and_eq_true_iff.1 bothConst,
      ruling_sound s.config.wordSize s right wellFormed shift c constant⟩

/-- Solving keeps values well formed: the left operand alone has to be. -/
theorem wellFormed_solve (wellFormed : left.WellFormed) (shift : operator.op.isShift = false) :
    (s.solve left operator right e).1.WellFormed := by
  have told := told_solve s left right operator e
  unfold Value.WellFormed
  split
  · rename_i c known
    obtain ⟨-, typed, -⟩ := solve_of_constant_eq_some s right e wellFormed shift known
    rw [told.isConst, known, typed.bare]
    exact ⟨rfl, typed.fits⟩
  · rename_i unknown
    rw [told.isConst, unknown]
    exact nofun

end Solve

theorem Chained.wellFormed {v : Value} (chained : Chained v) : v.WellFormed := by
  induction chained with
  | given wellFormed => exact wellFormed
  | solved s e _ _ shift left _ => exact wellFormed_solve s _ e left shift

/-- **Constants keep to their types.**  At every link of a chain of solves that do not
shift the result is well formed, whatever stands on the right.  It is known exactly when
it has a constant, which it has only if both operands are known, and is emitted as that
constant of its type exactly then.  A whole number is within the range of the category of
the type, which no narrower category of its signedness holds unless this solve reports a
division by zero. -/
theorem solve_wellFormed (s : Solver) {left : Value} (right : Value) {operator : Operator}
    (e : Evaluation) (chained : Chained left) (shift : operator.op.isShift = false) :
    let v := (s.solve left operator right e).1
    let reported := (s.solve left operator right e).2.diagnostics.drop e.diagnostics.length
    v.WellFormed ∧ Told v ∧
      (v.constant.isSome = true → left.isConst = true ∧ right.isConst = true) ∧
      ∀ c n, v.constant = some c → c.integer? = some n →
        v.type.category.Holds s.config.wordSize n ∧
          ((∀ d ∈ reported, d.kind ≠ .divideByZero) →
            v.type.category.Narrowest s.config.wordSize n) := by
  intro v reported
  have wellFormed := chained.wellFormed
  refine ⟨wellFormed_solve s right e wellFormed shift, told_solve s left right operator e, ?_, ?_⟩
  · intro some
    obtain ⟨c, known⟩ := Option.isSome_iff_exists.1 some
    exact (solve_of_constant_eq_some s right e wellFormed shift known).1
  · intro c n known whole
    obtain ⟨-, typed, narrowest⟩ := solve_of_constant_eq_some s right e wellFormed shift known
    refine ⟨typed.holds n whole, fun silent => ?_⟩
    have ruled : reported = (s.ruling left right operator).diagnostics := by
      simp only [reported, solve_diagnostics, List.drop_left]
    exact narrowest (ruled ▸ silent) n whole

/-- The difference of an enum's 5 and an unsigned 300 is a signed number of 16 bits. -/
theorem solve_wellFormed_enum_sub :
    ∃ v, v = ((ofConfig .standard).solve
        (.ofConstant (.enumeration "E" (.scalar .i32)) (.int 5)) (.detached .sub)
        (.uint .u16 300) .empty).1 ∧
      v.WellFormed ∧ v.constant = some (.int (-295)) ∧ v.type = .scalar .i16 ∧
      v.type.category.Holds .w64 (-295) ∧ v.type.category.Narrowest .w64 (-295) := by
  have chained : Chained (.ofConstant (.enumeration "E" (.scalar .i32)) (.int 5)) :=
    .given ⟨rfl, by decide +kernel⟩
  have shift : (Operator.detached .sub).op.isShift = false := rfl
  obtain ⟨wellFormed, -, -, whole⟩ := solve_wellFormed (ofConfig .standard) (.uint .u16 300)
    .empty chained shift
  have known : ((ofConfig .standard).solve (.ofConstant (.enumeration "E" (.scalar .i32)) (.int 5))
      (.detached .sub) (.uint .u16 300) .empty).1.constant = some (.int (-295)) := by
    decide +kernel
  have silent : ((ofConfig .standard).solve (.ofConstant (.enumeration "E" (.scalar .i32)) (.int 5))
      (.detached .sub) (.uint .u16 300) .empty).2.diagnostics.drop 0 = [] := by
    decide +kernel
  obtain ⟨holds, narrowest⟩ := whole (.int (-295)) (-295) known rfl
  refine ⟨_, rfl, wellFormed, known, by with_unfolding_all rfl, holds, narrowest ?_⟩
  intro d reported
  have none : d ∈ [] := silent ▸ reported
  cases none

end Solver

end BinarySolver
