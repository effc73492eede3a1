/-
# BinarySolver.Proofs.ZeroDivisor -- dividing by a known zero

Division by zero is reported exactly where one of two known numbers is divided by the
other and that is zero (`DividesByZero`), whichever way the constants are forced into one
representation before the test: no number is forced to zero that is not zero.  A zero of
the type of the quotient then stands in for it, one warning is added, and nothing else
happens (`solve_zeroDivisor`).
-/
import BinarySolver.Proofs.Accounting
import BinarySolver.Proofs.WholeOperand

namespace BinarySolver

set_option autoImplicit false

/-! ## One fold -/

namespace Operation

variable {o p : Operation} {l r : Constant}

/-- The ruling in which a zero of a type stands in for a quotient. -/
def substituteZero (o : Operation) (type : Descriptor) : Ruling :=
  ((Ruling.of { type, constant := some (.zero type.category), width := .keep }).trace
    (.zeroSubstituted o.op type.category)).warn
      (.report .divideByZero o.operator.span [o.op.symbol] [])

/-- A ruling in which a zero of a type stands in for a quotient if one divides by zero,
and no division by zero is reported if not. -/
structure ZeroRuled (o : Operation) (type : Descriptor) (zero : Prop) (r : Ruling) : Prop where
  substituted : zero → r = o.substituteZero type
  silent : ¬ zero → ∀ d ∈ r.diagnostics, d.kind ≠ .divideByZero

/-- What is ruled on an operation with the same operator is ruled on this one. -/
theorem ZeroRuled.congr {type type' : Descriptor} {zero zero' : Prop} {r : Ruling}
    (ruled : p.ZeroRuled type zero r) (operator : p.operator = o.operator) (same : zero' ↔ zero)
    (types : zero' → type = type') : o.ZeroRuled type' zero' r := by
  refine ⟨fun holds => ?_, fun fails => ruled.silent fun holds => fails (same.2 holds)⟩
  rw [ruled.substituted (same.1 holds), types holds]
  unfold substituteZero op
  rw [operator]

theorem zeroRuled_fold {zero : Prop} (left : o.left.constant = some l)
    (right : o.right.constant = some r) (known : o.bothConst = true)
    (divides : Constant.fold o.op l r = .zeroDivisor ↔ zero) (type : Descriptor) :
    o.ZeroRuled type zero (o.fold type) := by
  constructor
  · intro holds
    unfold fold
    rw [left, right, known]
    simp only [divides.2 holds]
    rfl
  · intro fails d reported
    have folds := o.fold_folds type
    generalize o.fold type = ruling at folds reported
    cases folds with
    | typed => cases reported
    | value => cases reported
    | undefined => cases reported
    | zeroDivisor sameLeft sameRight folded =>
        rw [left] at sameLeft
        rw [right] at sameRight
        cases sameLeft
        cases sameRight
        exact absurd (divides.1 folded) fails

end Operation

/-! ## Which quotients have no value -/

/-- Two numbers of these types are divided, and the divisor is zero.  A remainder in which
a float takes part is one of an integer and a whole number. -/
structure DividesByZero (op : BinaryOp) (left right : Descriptor) (l r : Constant) : Prop where
  quotient : op = .div ∨ op = .rem
  zero : r.rational? = some 0
  whole : op = .rem → left.isFloat = true ∨ right.isFloat = true →
    left.isInteger ≠ right.isInteger ∧
      (left.isFloat = true → ∃ n, l.HoldsWord n) ∧ (right.isFloat = true → ∃ n, r.HoldsWord n)

namespace Solver

variable {s : Solver} {o : Operation} {l r : Constant}

/-- The type of a quotient: the wider of the two types, and the left one if neither is, but
for a remainder in which a float takes part that of the integer, or `u64` if that is signed
and the float is a dividend too large to be signed. -/
def quotientType (s : Solver) (o : Operation) (l : Constant) : Descriptor :=
  if o.op == .rem && o.right.type.isFloat then o.left.type
  else if o.op == .rem && o.left.type.isFloat then
    if o.right.type.isSignedInteger && l.rational?.any (2 ^ 63 ≤ ·) then .scalar .u64
    else o.right.type
  else if o.right.type.category.IsWider s.config.wordSize o.left.type.category then o.right.type
  else o.left.type

/-- Division by zero is reported of quotients and remainders only. -/
theorem Verdict.of_divideByZero {ruling : Ruling} (verdict : Verdict s o ruling)
    {d : Diagnostic} (reported : d ∈ ruling.diagnostics) (kind : d.kind = .divideByZero) :
    o.op = .div ∨ o.op = .rem := by
  have folded : ∀ {p : Operation} (type : Descriptor), p.op = o.op →
      d ∈ (p.fold type).diagnostics → o.op = .div ∨ o.op = .rem := by
    intro p type same found
    rcases p.diagnostics_fold type with quiet | ⟨quotient, -⟩
    · rw [quiet] at found
      cases found
    · rwa [same] at quotient
  cases verdict with
  | @refused refusal _ _ fails =>
      obtain rfl := List.mem_singleton.1 reported
      have same : refusal = .divideByZero := kind
      rw [same] at fails
      cases fails
  | swapped =>
      obtain rfl := List.mem_singleton.1 reported
      cases kind
  | compared => cases reported
  | moved => cases reported
  | known => cases reported
  | truth recast => exact folded _ recast.op_eq reported
  | joined => exact folded _ rfl reported
  | computed recast => exact folded _ recast.op_eq reported
  | shifted shift =>
      rw [diagnostics_shiftRule shift] at reported
      split at reported
      · cases reported
      · obtain rfl := List.mem_singleton.1 reported
        cases kind

/-! ## Rule by rule -/

/-- Words are divided as integers. -/
theorem zeroRuled_words {a b : Constant} {x y : UInt64} (quotient : o.op = .div ∨ o.op = .rem)
    (known : o.bothConst = true) (left : o.left.constant = some a)
    (right : o.right.constant = some b) (leftNumeric : o.left.type.isNumeric = true)
    (rightNumeric : o.right.type.isNumeric = true) (leftWord : a.IsWord x)
    (rightWord : b.IsWord y) : o.ZeroRuled (s.wider o) (y = 0) (s.integerRule o) := by
  have number : o.op.yieldsBool = false ∧ o.op.isShift = false := by
    rcases quotient with op | op <;> rw [op] <;> exact ⟨rfl, rfl⟩
  have divides := Constant.fold_quotient_word quotient leftWord rightWord
  rw [integerRule_eq_fold s leftNumeric rightNumeric number.1 number.2]
  exact Operation.zeroRuled_fold left right known divides (s.wider o)

theorem zeroRuled_integers (numbers : OnNumbers o l r) (quotient : o.op = .div ∨ o.op = .rem)
    (left : o.left.type.isFloat = false) (right : o.right.type.isFloat = false) :
    o.ZeroRuled (s.wider o) (r.rational? = some 0) (s.integerRule o) := by
  obtain ⟨x, leftWord⟩ := Constant.exists_isWord
    (Constant.fits_isNumeric numbers.leftNumeric numbers.leftFits)
    ((Constant.isFloat_eq_of_fits numbers.leftFits).trans left)
  obtain ⟨y, rightWord⟩ := Constant.exists_isWord
    (Constant.fits_isNumeric numbers.rightNumeric numbers.rightFits)
    ((Constant.isFloat_eq_of_fits numbers.rightFits).trans right)
  rw [rightWord.rational?_eq_zero_iff]
  exact zeroRuled_words quotient numbers.known numbers.left numbers.right numbers.leftNumeric
    numbers.rightNumeric leftWord rightWord

/-- A number is promoted to the float nearest to it. -/
theorem promote_of_asFloat? {v : Value} {c : Constant} {x : Float} (constant : v.constant = some c)
    (converted : c.asFloat? = some x) : promote v = { v with constant := some (.float x) } := by
  have bound : v.constant.bind Constant.asFloat? = some x := by rw [constant]; exact converted
  unfold promote
  rw [bound]

/-- The quotient of two numbers is that of the floats nearest to them. -/
theorem zeroRuled_floats (numbers : OnNumbers o l r) (div : o.op = .div) :
    o.ZeroRuled (s.wider o) (r.rational? = some 0) (s.floatRule o) := by
  obtain ⟨x, leftFloat⟩ := Constant.exists_asFloat?
    (Constant.fits_isNumeric numbers.leftNumeric numbers.leftFits)
  obtain ⟨y, rightFloat⟩ := Constant.exists_asFloat?
    (Constant.fits_isNumeric numbers.rightNumeric numbers.rightFits)
  let p : Operation :=
    { o with
      left := { o.left with constant := some (.float x) }
      right := { o.right with constant := some (.float y) } }
  have ruled : s.floatRule o = p.fold (s.wider p) := by
    simp [floatRule, numbers.leftNumeric, numbers.rightNumeric, div, BinaryOp.isArithmetic,
      BinaryOp.isComparison, promote_of_asFloat? numbers.left leftFloat,
      promote_of_asFloat? numbers.right rightFloat, p]
  have divides : Constant.fold p.op (.float x) (.float y) = .zeroDivisor ↔
      r.rational? = some 0 := by
    rw [← Constant.asFloat?_beq_zero_iff rightFloat, show p.op = .div from div]
    simp [Constant.fold, Constant.asFloat?, Constant.foldFloat]
  have folded := p.zeroRuled_fold rfl rfl numbers.known divides (s.wider p)
  rw [ruled]
  exact ⟨folded.substituted, folded.silent⟩

/-! ## Remainders of floats -/

theorem wider_of_eq {type : Descriptor} (left : o.left.type = type) (right : o.right.type = type) :
    s.wider o = type :=
  wider_of (P := (· = type)) left right

/-- No signed integer is wider than a `u64`. -/
theorem wider_of_u64 (left : o.left.type = .scalar .u64)
    (signed : o.right.type.isSignedInteger = true) : s.wider o = .scalar .u64 := by
  have kind : o.right.type.category.isSignedInteger = true := (Bool.and_eq_true_iff.1 signed).2
  have whole : o.right.type.category.isInteger = true := by
    rw [Category.isInteger, kind, Bool.true_or]
  have below : ¬ o.right.type.category.IsWider s.config.wordSize .u64 := by
    intro above
    have same := Category.isSignedInteger_of_isWider above whole
    rw [kind] at same
    cases same
  rw [wider_eq, left]
  exact if_neg below

/-- What cannot be made a remainder of integers is refused. -/
theorem zeroRuled_refused {type : Descriptor} {zero : Prop} (numbers : OnNumbers o l r)
    (rem : o.op = .rem) (made : wholeRemainder? o = none) (fails : ¬ zero) :
    o.ZeroRuled type zero (s.floatRule o) := by
  rw [floatRule_rem rem numbers.leftNumeric numbers.rightNumeric, made]
  refine ⟨fun holds => absurd holds fails, fun _ d reported => ?_⟩
  obtain rfl := List.mem_singleton.1 reported
  exact nofun

/-- The remainder of an integer by a float. -/
theorem zeroRuled_floatDivisor (numbers : OnNumbers o l r) (rem : o.op = .rem)
    (left : o.left.type.isInteger = true) :
    o.ZeroRuled o.left.type (r.rational? = some 0) (s.floatRule o) := by
  by_cases word : ∃ n, r.HoldsWord n
  · obtain ⟨n, word⟩ := word
    let p : Operation := { o with right := o.right.wholeBeside o.left.type n }
    obtain ⟨x, leftWord⟩ := Constant.exists_isWord
      (Constant.fits_isNumeric numbers.leftNumeric numbers.leftFits)
      ((Constant.isFloat_eq_of_fits numbers.leftFits).trans (Descriptor.isFloat_of_isInteger left))
    have divided : p.ZeroRuled (s.wider p) (UInt64.ofInt n = 0) (s.integerRule p) :=
      zeroRuled_words (.inr rem) numbers.known numbers.left rfl numbers.leftNumeric
        (Descriptor.isNumeric_ofWhole left n) leftWord (Constant.isWord_word _ n)
    have known := Bool.and_eq_true_iff.1 numbers.known
    rw [floatRule_wholeDivisor rem left numbers.rightNumeric known.2 numbers.right word]
    refine divided.congr rfl ?_ fun zero => ?_
    · rw [word.rational?_eq_zero_iff, word.ofInt_eq_zero_iff]
    · obtain rfl := word.rational?_eq_zero_iff.1 zero
      exact wider_of_eq rfl (Descriptor.ofWhole_of_lt (by decide))
  · refine zeroRuled_refused numbers rem ?_ fun zero => word ⟨0, Constant.holdsWord_zero zero⟩
    rw [wholeRemainder?, if_pos left,
      wholeOperand?_eq_none numbers.right fun n holds => word ⟨n, holds⟩]
    rfl

/-- The remainder of a float by an integer. -/
theorem zeroRuled_floatDividend (numbers : OnNumbers o l r) (rem : o.op = .rem)
    (left : o.left.type.isFloat = true) (right : o.right.type.isInteger = true) {n : Int}
    (word : l.HoldsWord n) :
    o.ZeroRuled (o.right.type.ofWhole n) (r.rational? = some 0) (s.floatRule o) := by
  let p : Operation := { o with left := o.left.wholeBeside o.right.type n }
  obtain ⟨y, rightWord⟩ := Constant.exists_isWord
    (Constant.fits_isNumeric numbers.rightNumeric numbers.rightFits)
    ((Constant.isFloat_eq_of_fits numbers.rightFits).trans (Descriptor.isFloat_of_isInteger right))
  have divided : p.ZeroRuled (s.wider p) (y = 0) (s.integerRule p) :=
    zeroRuled_words (.inr rem) numbers.known rfl numbers.right
      (Descriptor.isNumeric_ofWhole right n) numbers.rightNumeric (Constant.isWord_word _ n)
      rightWord
  have known := Bool.and_eq_true_iff.1 numbers.known
  rw [floatRule_wholeDividend rem left right known.1 numbers.left word]
  refine divided.congr rfl rightWord.rational?_eq_zero_iff fun _ => ?_
  show s.wider p = o.right.type.ofWhole n
  rcases o.right.type.ofWhole_cases n with same | ⟨signed, same⟩
  · rw [same]
    exact wider_of_eq same rfl
  · rw [same]
    exact wider_of_u64 same signed

/-! ## All rules -/

section Whole

variable (quotient : o.op = .div ∨ o.op = .rem)
  (whole : o.op = .rem → o.left.type.isFloat = false ∧ o.right.type.isFloat = false)
include quotient whole

/-- Numbers are divided by zero where the divisor is zero, if no float takes part in a
remainder. -/
theorem dividesByZero_iff_of_whole :
    DividesByZero o.op o.left.type o.right.type l r ↔ r.rational? = some 0 := by
  refine ⟨fun divides => divides.zero, fun zero => ⟨quotient, zero, fun rem float => ?_⟩⟩
  obtain ⟨left, right⟩ := whole rem
  rw [left, right] at float
  rcases float with float | float <;> cases float

omit quotient in
theorem quotientType_of_whole : s.quotientType o l = s.wider o := by
  rw [quotientType, wider_eq]
  by_cases rem : o.op = .rem
  · obtain ⟨left, right⟩ := whole rem
    simp [left, right]
  · simp [rem]

end Whole

/-- The dividend of a remainder is a float too large to be signed. -/
theorem any_rational?_eq {n : Int} (word : l.HoldsWord n) :
    l.rational?.any (fun x => decide (2 ^ 63 ≤ x)) = !decide (n < 2 ^ 63) := by
  have cast : ((2 : ℚ) ^ 63 ≤ (n : ℚ)) ↔ ¬ n < 2 ^ 63 := by
    rw [Int.not_lt]
    exact_mod_cast Iff.rfl
  rw [word.exact, Option.any_some, decide_eq_decide.2 cast, decide_not]

/-- The remainder of two numbers one of which is a float. -/
theorem zeroRuled_rem (numbers : OnNumbers o l r) (rem : o.op = .rem)
    (float : o.left.type.isFloat = true ∨ o.right.type.isFloat = true) :
    o.ZeroRuled (s.quotientType o l) (DividesByZero o.op o.left.type o.right.type l r)
      (s.floatRule o) := by
  have refused : wholeRemainder? o = none →
      ¬ DividesByZero o.op o.left.type o.right.type l r →
      o.ZeroRuled (s.quotientType o l) (DividesByZero o.op o.left.type o.right.type l r)
        (s.floatRule o) := fun made fails => zeroRuled_refused numbers rem made fails
  cases left : o.left.type.isInteger with
  | true =>
      have leftWhole := Descriptor.isFloat_of_isInteger left
      have right : o.right.type.isFloat = true := by simpa [leftWhole] using float
      have rightWhole := Descriptor.isInteger_of_isFloat right
      refine (zeroRuled_floatDivisor numbers rem left).congr rfl ⟨fun h => h.zero, fun zero => ?_⟩
        fun _ => ?_
      · refine ⟨.inr rem, zero, fun _ _ => ⟨?_, ?_, fun _ => ⟨0, Constant.holdsWord_zero zero⟩⟩⟩
        · rw [left, rightWhole]
          exact nofun
        · rw [leftWhole]
          exact nofun
      · simp [quotientType, rem, right]
  | false =>
      have leftFloat : o.left.type.isFloat = true := by
        simpa [Descriptor.isNumeric_eq_or, left] using numbers.leftNumeric
      cases right : o.right.type.isInteger with
      | true =>
          have rightWhole := Descriptor.isFloat_of_isInteger right
          by_cases word : ∃ n, l.HoldsWord n
          · obtain ⟨n, holds⟩ := word
            refine (zeroRuled_floatDividend numbers rem leftFloat right holds).congr rfl
              ⟨fun h => h.zero, fun zero => ⟨.inr rem, zero, fun _ _ => ⟨?_, ?_, ?_⟩⟩⟩ fun _ => ?_
            · rw [left, right]
              exact nofun
            · exact fun _ => ⟨n, holds⟩
            · rw [rightWhole]
              exact nofun
            · simp only [quotientType, rem, rightWhole, leftFloat, any_rational?_eq holds]
              rfl
          · refine refused ?_ fun divides => word ((divides.whole rem float).2.1 leftFloat)
            rw [wholeRemainder?, left, if_neg nofun, if_pos right,
              wholeOperand?_eq_none numbers.left fun n holds => word ⟨n, holds⟩]
            rfl
      | false =>
          refine refused ?_ fun divides => (divides.whole rem float).1 ?_
          · rw [wholeRemainder?, left, right, if_neg nofun, if_neg nofun]
          · rw [left, right]

/-- **Division by zero is ruled on numbers exactly where one divides by zero.** -/
theorem zeroRuled_settle (numbers : OnNumbers o l r) (quotient : o.op = .div ∨ o.op = .rem) :
    o.ZeroRuled (s.quotientType o l) (DividesByZero o.op o.left.type o.right.type l r)
      (s.settle o) := by
  have logical : o.op.isLogical = false := by
    rcases quotient with op | op <;> rw [op] <;> rfl
  cases float : o.either Descriptor.isFloat with
  | false =>
      obtain ⟨left, right⟩ := Bool.or_eq_false_iff.1 float
      have leftWhole := Descriptor.isInteger_of_isNumeric numbers.leftNumeric left
      have rightWhole := Descriptor.isInteger_of_isNumeric numbers.rightNumeric right
      rw [settle_integers s logical leftWhole rightWhole,
        quotientType_of_whole fun _ => ⟨left, right⟩]
      exact (zeroRuled_integers numbers quotient left right).congr rfl
        (dividesByZero_iff_of_whole quotient fun _ => ⟨left, right⟩) fun _ => rfl
  | true =>
      rw [settle_floats s logical numbers.leftNumeric numbers.rightNumeric float]
      rcases quotient with div | rem
      · have whole : o.op = .rem → o.left.type.isFloat = false ∧ o.right.type.isFloat = false := by
          rw [div]
          exact nofun
        rw [quotientType_of_whole whole]
        exact (zeroRuled_floats numbers div).congr rfl
          (dividesByZero_iff_of_whole (.inl div) whole) fun _ => rfl
      · exact zeroRuled_rem numbers rem (Bool.or_eq_true_iff.1 float)

/-! ## Solving -/

/-- The type of a quotient is that of an operand, or `u64`. -/
theorem quotientType_of {P : Descriptor → Prop} (s : Solver) (l : Constant)
    (u64 : P (.scalar .u64)) (left : P o.left.type) (right : P o.right.type) :
    P (s.quotientType o l) := by
  unfold quotientType
  repeat' split
  all_goals assumption

theorem rational?_zero (category : Category) : (Constant.zero category).rational? = some 0 := by
  unfold Constant.zero
  split
  · exact (Constant.beq_zero_iff _).1 (by rfl)
  split
  · exact congrArg some Nat.cast_zero
  · exact congrArg some Int.cast_zero

/-- What comes of dividing by zero: a zero of a type stands in for the quotient, and one
warning is added. -/
structure ZeroSubstituted (operator : Operator) (type : Descriptor) (e : Evaluation)
    (result : Value × Evaluation) : Prop where
  typed : result.1.type = type
  known : result.1.isConst = true
  constant : result.1.constant = some (.zero type.category)
  fits : (Constant.zero type.category).fits type = true
  isZero : (Constant.zero type.category).rational? = some 0
  diagnostics : result.2.diagnostics =
    e.diagnostics ++ [.report .divideByZero operator.span [operator.op.symbol] []]
  failed : result.2.failed = e.failed

/-- A ruling in which a zero stands in is finished to that zero. -/
theorem zeroSubstituted_solve (s : Solver) {left right : Value} {operator : Operator}
    {type : Descriptor} (e : Evaluation) (known : (left.isConst && right.isConst) = true)
    (numeric : type.isNumeric = true) (resolved : type.aliasOf = none)
    (same : o.operator = operator)
    (ruled : s.ruling left right operator = o.substituteZero type) :
    ZeroSubstituted operator type e (s.solve left operator right e) := by
  have bare : type.isVoid = false := Descriptor.isA_of_isNumeric numeric rfl
  have value : (s.solve left operator right e).1 =
      finish { type, constant := some (.zero type.category), width := .keep } true
        operator.span := by
    rw [solve_value, ruled, known]
    rfl
  rw [finish_true rfl bare] at value
  subst same
  refine
    { typed := congrArg Value.type value
      known := congrArg Value.isConst value
      constant := congrArg Value.constant value
      fits := (Constant.wellTyped_zero s.config.wordSize numeric resolved).fits
      isZero := rational?_zero _
      diagnostics := ?_
      failed := ?_ }
  · rw [solve_diagnostics, ruled]
    rfl
  · rw [solve_failed, ruled]
    exact Bool.or_false _

/-- **Division by a known zero is reported exactly, and a zero stands in for the quotient.** -/
theorem solve_zeroDivisor (s : Solver) {left right : Value} (leftNumber : left.IsNumber l)
    (rightNumber : right.IsNumber r) (operator : Operator) (e : Evaluation) :
    let o := (operation left operator right).unwrapped
    let result := s.solve left operator right e
    let reported := result.2.diagnostics.drop e.diagnostics.length
    let dividesByZero := DividesByZero operator.op left.type.unwrap right.type.unwrap l r
    ((∃ d ∈ reported, d.kind = .divideByZero) ↔ dividesByZero) ∧
      (dividesByZero → ZeroSubstituted operator (s.quotientType o l) e result) := by
  intro o result reported dividesByZero
  obtain ⟨leftType, rightType⟩ := type_unwrapped left operator right
  have ruled : reported = (s.ruling left right operator).diagnostics := by
    simp only [reported, result, solve_diagnostics, List.drop_left]
  by_cases quotient : operator.op = .div ∨ operator.op = .rem
  · have logical : operator.op.isLogical = false := by
      rcases quotient with op | op <;> rw [op] <;> rfl
    obtain ⟨numbers, settled⟩ := ruling_of_numbers s leftNumber rightNumber logical
    have zeroRuled := zeroRuled_settle (s := s) numbers quotient
    rw [leftType, rightType, ← settled] at zeroRuled
    have substituted : dividesByZero → ZeroSubstituted operator (s.quotientType o l) e result := by
      intro holds
      refine zeroSubstituted_solve s e numbers.known ?_ ?_ rfl (zeroRuled.substituted holds)
      · exact quotientType_of (P := (·.isNumeric = true)) s l (Descriptor.isNumeric_scalar .u64)
          numbers.leftNumeric numbers.rightNumeric
      · exact quotientType_of (P := (·.aliasOf = none)) s l rfl (Descriptor.aliasOf_unwrap _)
          (Descriptor.aliasOf_unwrap _)
    refine ⟨⟨fun ⟨d, found, kind⟩ => ?_, fun holds => ?_⟩, substituted⟩
    · refine Classical.byContradiction fun fails => ?_
      exact zeroRuled.silent fails d (ruled ▸ found) kind
    · refine ⟨.report .divideByZero operator.span [operator.op.symbol] [], ?_, rfl⟩
      rw [ruled, zeroRuled.substituted holds]
      exact List.mem_singleton.2 rfl
  · have fails : ¬ dividesByZero := fun holds => quotient holds.quotient
    refine ⟨⟨fun ⟨d, found, kind⟩ => absurd ?_ quotient, fun holds => absurd holds fails⟩,
      fun holds => absurd holds fails⟩
    have verdict := settle_verdict s (operation left operator right).settled
    have divides := verdict.of_divideByZero (ruled ▸ found) kind
    rwa [Operation.op_settled] at divides

/-- The remainder of `2 ^ 63` by an enum of a signed zero is an unsigned zero. -/
theorem solve_zeroDivisor_large_rem_enum :
    ∃ left right : Value,
      left = .float .f64 (Float.ofBits 0x43E0000000000000) ∧
      right = .ofConstant (.enumeration "E" (.scalar .i32)) (.int 0) ∧
      left.IsNumber (.float (Float.ofBits 0x43E0000000000000)) ∧ right.IsNumber (.int 0) ∧
      ZeroSubstituted (.detached .rem) (.scalar .u64) .empty
        ((ofConfig .standard).solve left (.detached .rem) right .empty) := by
  have large := Constant.holdsWord_two_pow_63
  generalize Float.ofBits 0x43E0000000000000 = x at large ⊢
  have float : (Value.float .f64 x).type.unwrap = .scalar .f64 := Descriptor.unwrap_scalar .f64
  have leftNumber : (Value.float .f64 x).IsNumber (.float x) :=
    ⟨rfl, rfl, float ▸ Descriptor.isNumeric_scalar .f64, float ▸ Descriptor.isFloat_scalar .f64⟩
  have rightNumber : (Value.ofConstant (.enumeration "E" (.scalar .i32)) (.int 0)).IsNumber
      (.int 0) := ⟨rfl, rfl, by decide +kernel, by decide +kernel⟩
  refine ⟨_, _, rfl, rfl, leftNumber, rightNumber, ?_⟩
  have signed : (Value.ofConstant (.enumeration "E" (.scalar .i32)) (.int 0)).type.unwrap =
      .scalar .i32 := by with_unfolding_all rfl
  have divides : DividesByZero .rem (Value.float .f64 x).type.unwrap
      (Value.ofConstant (.enumeration "E" (.scalar .i32)) (.int 0)).type.unwrap (.float x)
      (.int 0) := by
    rw [float, signed]
    refine ⟨.inr rfl, rational?_zero .i32, fun _ _ => ⟨by decide, fun _ => ⟨_, large⟩, ?_⟩⟩
    exact fun float => absurd float (by decide)
  have type : (ofConfig .standard).quotientType (operation (.float .f64 x) (.detached .rem)
      (.ofConstant (.enumeration "E" (.scalar .i32)) (.int 0))).unwrapped (.float x) =
        .scalar .u64 := by
    unfold quotientType
    rw [any_rational?_eq large]
    simp only [operation, Operation.unwrapped, Operation.retype, Descriptor.unwrap_resolve, float,
      signed]
    rfl
  rw [← type]
  exact (solve_zeroDivisor (ofConfig .standard) leftNumber rightNumber (.detached .rem)
    .empty).2 divides

end Solver

end BinarySolver
