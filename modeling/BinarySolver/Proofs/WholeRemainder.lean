/-
# BinarySolver.Proofs.WholeRemainder -- the remainder of an integer and a whole float

The remainder of an integer and a float that holds a whole number is the truncated
remainder of the two numbers, once both are wrapped into the representation of the
dividend: signed if the integer is of a signed type and the dividend is a signed word, and
unsigned otherwise (`solve_wholeRemainder`).  It is the remainder of the numbers themselves
if both are within the range of that representation, and need not be if one is not
(`ten_rem_minus_three`).
-/
import BinarySolver.Proofs.WholeOperand

namespace BinarySolver

set_option autoImplicit false

open Numeral Category

namespace Constant

variable {c l r : Constant} {a b n : Int}

/-- The number that the word of a number stands for. -/
def wrapped (signed : Bool) (n : Int) : Int := if signed then n.bmod (2 ^ 64) else n % 2 ^ 64

/-- A number that is a signed or an unsigned word. -/
def Ranges (signed : Bool) (n : Int) : Prop :=
  if signed then HoldsSigned 64 n else HoldsUnsigned 64 n

theorem wrapped_of_ranges {signed : Bool} (ranges : Ranges signed n) : wrapped signed n = n := by
  cases signed with
  | true =>
      obtain ⟨low, high⟩ : HoldsSigned 64 n := ranges
      exact Int.bmod_eq_of_le (by omega) (by omega)
  | false =>
      obtain ⟨low, high⟩ : HoldsUnsigned 64 n := ranges
      exact Int.emod_eq_of_lt low high

theorem toInt_ofInt (n : Int) : (Int64.ofInt n).toInt = wrapped true n := Int64.toInt_ofInt

theorem natCast_toNat_ofInt (n : Int) : ((UInt64.ofInt n).toNat : Int) = wrapped false n := by
  show _ = n % 2 ^ 64
  rw [toNat_ofInt]
  omega

theorem rational?_word (signed : Bool) (n : Int) :
    (word signed n).rational? = some (wrapped signed n : ℚ) := by
  cases signed with
  | true =>
      rw [← toInt_ofInt]
      rfl
  | false =>
      rw [← natCast_toNat_ofInt]
      exact rational?_uint _

/-- The remainder of two words stands for that of the numbers for which they stand. -/
theorem rem_int64 (a b : Int) :
    (Int64.ofInt a % Int64.ofInt b).toInt = (wrapped true a).tmod (wrapped true b) := by
  rw [Int64.toInt_mod, toInt_ofInt, toInt_ofInt]

theorem rem_uint64 (a b : Int) :
    ((UInt64.ofInt a % UInt64.ofInt b).toNat : Int) =
      (wrapped false a).tmod (wrapped false b) := by
  rw [UInt64.toNat_mod, Int.ofNat_tmod, natCast_toNat_ofInt, natCast_toNat_ofInt]

/-- Words are divided in the representation of the left one. -/
theorem fold_rem_word {signed : Bool} (right : r.IsWord (UInt64.ofInt b))
    (nonzero : UInt64.ofInt b ≠ 0) :
    fold .rem (word signed a) r =
      .value (word signed ((wrapped signed a).tmod (wrapped signed b))) := by
  have unsigned := right.asUInt64?_eq
  cases signed with
  | true =>
      have converted := right.asInt64?_eq
      have divisor : Int64.ofInt b ≠ 0 := by
        rwa [← toInt64_ofInt, ne_eq, toInt64_eq_zero_iff]
      rw [toInt64_ofInt] at converted
      have folded : fold .rem (word true a) r = .value (int (Int64.ofInt a % Int64.ofInt b)) := by
        simp [fold, word, converted, unsigned, foldInt, divisor]
      rw [folded, ← rem_int64, word, if_pos rfl, Int64.ofInt_toInt]
  | false =>
      have folded : fold .rem (word false a) r =
          .value (uint (UInt64.ofInt a % UInt64.ofInt b)) := by
        simp [fold, word, unsigned, foldUInt, nonzero]
      rw [folded, ← rem_uint64, word, if_neg Bool.false_ne_true, ofInt_toNat]

/-- A remainder of words is a word. -/
theorem ranges_tmod (signed : Bool) (a b : Int) :
    Ranges signed ((wrapped signed a).tmod (wrapped signed b)) := by
  cases signed with
  | true =>
      rw [← rem_int64]
      exact ⟨Int64.le_toInt _, Int64.toInt_lt _⟩
  | false =>
      rw [← rem_uint64]
      exact ⟨Int.natCast_nonneg _, by exact_mod_cast UInt64.toNat_lt _⟩

/-- An integer is what it would be made beside an integer of its type. -/
theorem eq_ofWhole_of_fits {d : Descriptor} (whole : d.isInteger = true) (fits : c.fits d = true)
    (exact : c.rational? = some (n : ℚ)) : c = ofWhole d.isSignedInteger n ∧ c.HoldsWord n := by
  have number := fits_isNumeric (Descriptor.isNumeric_of_isInteger whole) fits
  have other := (isFloat_eq_of_fits fits).trans (Descriptor.isFloat_of_isInteger whole)
  cases c with
  | bool => cases number
  | str => cases number
  | float => cases other
  | int x =>
      have value : x.toInt = n := Int.cast_inj.1 (Option.some.inj exact)
      have low := x.le_toInt
      have high := x.toInt_lt
      have signed : d.isSignedInteger = true := fits
      rw [value] at low high
      refine ⟨?_, exact, low, by omega⟩
      rw [ofWhole, signed, decide_eq_true high, ← value]
      exact congrArg int (Int64.ofInt_toInt x).symm
  | uint x =>
      have value : (x.toNat : Int) = n :=
        Int.cast_inj.1 (Option.some.inj ((rational?_uint x).symm.trans exact))
      have high := x.toNat_lt
      have unsigned : d.isSignedInteger = false := by
        have kind : d.category.isUnsignedInteger = true := (Bool.and_eq_true_iff.1 fits).2
        rw [Descriptor.isSignedInteger, isSignedInteger_of_isUnsignedInteger kind, Bool.and_false]
      refine ⟨?_, exact, by omega, by omega⟩
      rw [ofWhole, unsigned, ← value]
      exact congrArg uint (ofInt_toNat x).symm

end Constant

/-! ## Operands -/

/-- A known integer of an integer type, which may stand behind aliases and enums. -/
structure Value.IsInteger (v : Value) (n : Int) : Prop where
  known : v.isConst = true
  integer : v.type.unwrap.isInteger = true
  constant : ∃ c, v.constant = some c ∧ c.fits v.type.unwrap = true ∧ c.rational? = some (n : ℚ)

/-- A known constant of a float type, in whichever representation, that is a whole number
and a word. -/
structure Value.IsWholeFloat (v : Value) (n : Int) : Prop where
  known : v.isConst = true
  float : v.type.unwrap.isFloat = true
  constant : ∃ c, v.constant = some c ∧ c.HoldsWord n

namespace Value

variable {category : Category}

theorem isInteger_int (signed : category.isSignedInteger = true) (x : Int64) :
    (int category x).IsInteger x.toInt := by
  have type : (int category x).type.unwrap = .scalar category := Descriptor.unwrap_scalar category
  have fits := (Descriptor.isSignedInteger_scalar category).trans signed
  refine ⟨rfl, ?_, _, rfl, type ▸ fits, rfl⟩
  rw [type, Descriptor.isInteger_eq_or, fits, Bool.true_or]

theorem isInteger_uint (unsigned : category.isUnsignedInteger = true) (x : UInt64) :
    (uint category x).IsInteger x.toNat := by
  have type : (uint category x).type.unwrap = .scalar category := Descriptor.unwrap_scalar category
  have fits := (Descriptor.isUnsignedInteger_scalar category).trans unsigned
  refine ⟨rfl, ?_, _, rfl, type ▸ fits, rfl⟩
  rw [type, Descriptor.isInteger_eq_or, fits, Bool.or_true]

theorem isWholeFloat_float {x : Float} {n : Int} (float : category.isFloat = true)
    (word : (Constant.float x).HoldsWord n) : (Value.float category x).IsWholeFloat n := by
  have type : (Value.float category x).type.unwrap = .scalar category :=
    Descriptor.unwrap_scalar category
  exact ⟨rfl, type ▸ (Descriptor.isFloat_scalar category).trans float, _, rfl, word⟩

end Value

namespace Solver

variable {left right : Value} {a b : Int} {signed : Bool} {span : Span}

/-- The remainder of two words, the left one in a representation. -/
structure RemainderOfWords (p : Operation) (signed : Bool) (a b : Int) (span : Span) : Prop where
  operator : p.operator = ⟨.rem, span⟩
  known : p.bothConst = true
  left : p.left.constant = some (.word signed a)
  right : ∃ c, p.right.constant = some c ∧ c.IsWord (UInt64.ofInt b)
  leftNumeric : p.left.type.isNumeric = true
  rightNumeric : p.right.type.isNumeric = true

/-- Two numbers of which one is of a float type are ruled on by the rule for floats. -/
theorem ruling_of_floats (s : Solver) {operator : Operator}
    (logical : operator.op.isLogical = false)
    (leftNumeric : left.type.unwrap.isNumeric = true)
    (rightNumeric : right.type.unwrap.isNumeric = true)
    (float : left.type.unwrap.isFloat = true ∨ right.type.unwrap.isFloat = true) :
    s.ruling left right operator = s.floatRule (operation left operator right).unwrapped := by
  obtain ⟨leftType, rightType⟩ := type_unwrapped left operator right
  rw [ruling_of_isNumeric s logical leftNumeric rightNumeric]
  rw [← leftType] at leftNumeric float
  rw [← rightType] at rightNumeric float
  exact settle_floats s logical leftNumeric rightNumeric (Bool.or_eq_true_iff.2 float)

theorem ruling_of_wholeDivisor (s : Solver) (dividend : left.IsInteger a)
    (divisor : right.IsWholeFloat b) (span : Span) :
    ∃ p, s.ruling left right ⟨.rem, span⟩ = s.integerRule p ∧
      RemainderOfWords p (left.type.unwrap.isSignedInteger && decide (a < 2 ^ 63)) a b span := by
  obtain ⟨l, leftConstant, fits, exact⟩ := dividend.constant
  obtain ⟨r, rightConstant, word⟩ := divisor.constant
  have leftNumeric := Descriptor.isNumeric_of_isInteger dividend.integer
  have rightNumeric := Descriptor.isNumeric_of_isFloat divisor.float
  let o := (operation left ⟨.rem, span⟩ right).unwrapped
  obtain ⟨leftType, rightType⟩ := type_unwrapped left ⟨.rem, span⟩ right
  have integer : o.left.type.isInteger = true := leftType ▸ dividend.integer
  refine ⟨{ o with right := o.right.wholeBeside o.left.type b }, ?_, ?_⟩
  · rw [ruling_of_floats s rfl leftNumeric rightNumeric (.inr divisor.float)]
    exact floatRule_wholeDivisor rfl integer (rightType ▸ rightNumeric) divisor.known
      rightConstant word
  · exact
      { operator := rfl
        known := Bool.and_eq_true_iff.2 ⟨dividend.known, divisor.known⟩
        left := leftConstant.trans
          (congrArg some (Constant.eq_ofWhole_of_fits dividend.integer fits exact).1)
        right := ⟨_, rfl, Constant.isWord_word _ b⟩
        leftNumeric := leftType ▸ leftNumeric
        rightNumeric := Descriptor.isNumeric_ofWhole integer b }

theorem ruling_of_wholeDividend (s : Solver) (dividend : left.IsWholeFloat a)
    (divisor : right.IsInteger b) (span : Span) :
    ∃ p, s.ruling left right ⟨.rem, span⟩ = s.integerRule p ∧
      RemainderOfWords p (right.type.unwrap.isSignedInteger && decide (a < 2 ^ 63)) a b span := by
  obtain ⟨l, leftConstant, word⟩ := dividend.constant
  obtain ⟨r, rightConstant, fits, exact⟩ := divisor.constant
  have leftNumeric := Descriptor.isNumeric_of_isFloat dividend.float
  have rightNumeric := Descriptor.isNumeric_of_isInteger divisor.integer
  let o := (operation left ⟨.rem, span⟩ right).unwrapped
  obtain ⟨leftType, rightType⟩ := type_unwrapped left ⟨.rem, span⟩ right
  have integer : o.right.type.isInteger = true := rightType ▸ divisor.integer
  have payload : (o.left.wholeBeside o.right.type a).constant =
      some (.ofWhole right.type.unwrap.isSignedInteger a) := by
    rw [← rightType]
    rfl
  refine ⟨{ o with left := o.left.wholeBeside o.right.type a }, ?_, ?_⟩
  · rw [ruling_of_floats s rfl leftNumeric rightNumeric (.inl dividend.float)]
    exact floatRule_wholeDividend rfl (leftType ▸ dividend.float) integer dividend.known
      leftConstant word
  · have whole := Constant.isFloat_eq_of_fits fits
    rw [Descriptor.isFloat_of_isInteger divisor.integer] at whole
    exact
      { operator := rfl
        known := Bool.and_eq_true_iff.2 ⟨dividend.known, divisor.known⟩
        left := payload
        right := ⟨r, rightConstant, Constant.isWord_of_rational? whole exact⟩
        leftNumeric := Descriptor.isNumeric_ofWhole integer a
        rightNumeric := rightType ▸ rightNumeric }

/-- The remainder of an integer and a whole float is one of two words. -/
theorem ruling_of_wholeRemainder (s : Solver)
    (operands : (left.IsInteger a ∧ right.IsWholeFloat b) ∨
      (left.IsWholeFloat a ∧ right.IsInteger b)) (span : Span) :
    ∃ p, s.ruling left right ⟨.rem, span⟩ = s.integerRule p ∧
      RemainderOfWords p ((left.type.unwrap.isSignedInteger || right.type.unwrap.isSignedInteger) &&
        decide (a < 2 ^ 63)) a b span := by
  have unsigned : ∀ {d : Descriptor}, d.isFloat = true → d.isSignedInteger = false := by
    intro d float
    have whole := Descriptor.isInteger_of_isFloat float
    rw [Descriptor.isInteger_eq_or, Bool.or_eq_false_iff] at whole
    exact whole.1
  rcases operands with ⟨dividend, divisor⟩ | ⟨dividend, divisor⟩
  · rw [unsigned divisor.float, Bool.or_false]
    exact ruling_of_wholeDivisor s dividend divisor span
  · rw [unsigned dividend.float, Bool.false_or]
    exact ruling_of_wholeDividend s dividend divisor span

/-- The remainder of two words by another than zero is known, and nothing is reported. -/
theorem RemainderOfWords.solve (s : Solver) {p : Operation}
    (words : RemainderOfWords p signed a b span)
    (ruled : s.ruling left right ⟨.rem, span⟩ = s.integerRule p)
    (known : (left.isConst && right.isConst) = true) (nonzero : UInt64.ofInt b ≠ 0)
    (e : Evaluation) :
    let result := s.solve left ⟨.rem, span⟩ right e
    let q := (Constant.wrapped signed a).tmod (Constant.wrapped signed b)
    (result.1.constant = some (.word signed q) ∧ result.1.isConst = true) ∧
      result.2.diagnostics = e.diagnostics ∧ result.2.failed = e.failed := by
  intro result q
  obtain ⟨c, right, word⟩ := words.right
  have rem : p.op = .rem := congrArg Operator.op words.operator
  have folded : Constant.fold p.op (.word signed a) c = .value (.word signed q) := by
    rw [rem]
    exact Constant.fold_rem_word word nonzero
  rw [integerRule_eq_fold s words.leftNumeric words.rightNumeric (by rw [rem]; rfl)
    (by rw [rem]; rfl), p.fold_of_value words.left right words.known folded] at ruled
  have value : result.1 =
      finish { type := s.wider p, constant := some (.word signed q), width := .minimal } true
        span := by
    rw [solve_value, ruled, known]
    rfl
  rw [finish_true rfl (isVoid_wider s words.leftNumeric words.rightNumeric)] at value
  refine ⟨⟨congrArg Value.constant value, congrArg Value.isConst value⟩, ?_, ?_⟩
  · rw [solve_diagnostics, ruled]
    exact List.append_nil _
  · rw [solve_failed, ruled]
    exact Bool.or_false _

/-- **The remainder of an integer and a whole float.**  It is the truncated remainder of
the numbers for which the words of the two stand in the representation of the dividend,
which is that of the numbers themselves if both are within its range. -/
theorem solve_wholeRemainder (s : Solver)
    (operands : (left.IsInteger a ∧ right.IsWholeFloat b) ∨
      (left.IsWholeFloat a ∧ right.IsInteger b)) (nonzero : b ≠ 0) (span : Span)
    (e : Evaluation) :
    let result := s.solve left ⟨.rem, span⟩ right e
    let signed := (left.type.unwrap.isSignedInteger || right.type.unwrap.isSignedInteger) &&
      decide (a < 2 ^ 63)
    let q := (Constant.wrapped signed a).tmod (Constant.wrapped signed b)
    (result.1.constant = some (.word signed q) ∧ result.1.isConst = true) ∧
      (Constant.word signed q).rational? = some (q : ℚ) ∧
      (Constant.Ranges signed a → Constant.Ranges signed b → q = a.tmod b) ∧
      result.2.diagnostics = e.diagnostics ∧ result.2.failed = e.failed := by
  intro result signed q
  obtain ⟨c, holds⟩ : ∃ c : Constant, c.HoldsWord b := by
    rcases operands with ⟨-, divisor⟩ | ⟨-, divisor⟩
    · obtain ⟨c, -, holds⟩ := divisor.constant
      exact ⟨c, holds⟩
    · obtain ⟨c, -, fits, exact⟩ := divisor.constant
      exact ⟨c, (Constant.eq_ofWhole_of_fits divisor.integer fits exact).2⟩
  have known : (left.isConst && right.isConst) = true := by
    rcases operands with ⟨dividend, divisor⟩ | ⟨dividend, divisor⟩ <;>
      rw [dividend.known, divisor.known] <;> rfl
  obtain ⟨p, ruled, words⟩ := ruling_of_wholeRemainder s operands span
  have solved := words.solve s ruled known (mt holds.ofInt_eq_zero_iff.1 nonzero) e
  refine ⟨solved.1, ?_, fun dividend divisor => ?_, solved.2⟩
  · rw [Constant.rational?_word, Constant.wrapped_of_ranges (Constant.ranges_tmod signed a b)]
  · simp only [q, Constant.wrapped_of_ranges dividend, Constant.wrapped_of_ranges divisor]

/-- The remainder of `2 ^ 63` by an enum of a signed 1000 is that of two unsigned words. -/
theorem solve_wholeRemainder_large_rem_enum :
    ∃ left right : Value,
      left = .float .f64 (Float.ofBits 0x43E0000000000000) ∧
      right = .ofConstant (.enumeration "E" (.scalar .i32)) (.int 1000) ∧
      left.IsWholeFloat (2 ^ 63) ∧ right.IsInteger 1000 ∧ (1000 : Int) ≠ 0 ∧
      ((ofConfig .standard).solve left (.detached .rem) right .empty).1.constant =
        some (.uint 808) := by
  have large := Constant.holdsWord_two_pow_63
  generalize Float.ofBits 0x43E0000000000000 = x at large ⊢
  have dividend : (Value.float .f64 x).IsWholeFloat (2 ^ 63) :=
    Value.isWholeFloat_float rfl large
  have divisor : (Value.ofConstant (.enumeration "E" (.scalar .i32)) (.int 1000)).IsInteger 1000 :=
    ⟨rfl, by decide +kernel, _, rfl, by decide +kernel, rfl⟩
  have nonzero : (1000 : Int) ≠ 0 := by decide
  have known := (solve_wholeRemainder (ofConfig .standard) (.inr ⟨dividend, divisor⟩) nonzero
    .detached .empty).1.1
  have unsigned : decide ((2 : Int) ^ 63 < 2 ^ 63) = false := rfl
  rw [unsigned, Bool.and_false] at known
  exact ⟨_, _, rfl, rfl, dividend, divisor, nonzero, known.trans (by decide)⟩

/-- The remainder of an unsigned 10 by -3 is 10, not 1: as an unsigned word -3 is larger. -/
theorem ten_rem_minus_three :
    ∃ left right : Value,
      left = .uint .u32 10 ∧ right = .float .f64 (Float.ofBits 0xC008000000000000) ∧
      left.IsInteger 10 ∧ right.IsWholeFloat (-3) ∧
      ((ofConfig .standard).solve left (.detached .rem) right .empty).1.constant =
        some (.uint 10) ∧
      (Constant.uint 10).toInt? ≠ some ((10 : Int).tmod (-3)) := by
  have negative : (Constant.float (Float.ofBits 0xC008000000000000)).HoldsWord (-3) := by
    have bits : Numeral.Binary.ofFloat (Float.ofBits 0xC008000000000000) =
        .finite true (3 * 2 ^ 51) (-51) := by rfl
    refine ⟨(Constant.toInt?_eq_some_iff _ _).1 ?_, by decide, by decide⟩
    rw [Constant.toInt?, bits]
    decide
  generalize Float.ofBits 0xC008000000000000 = x at negative ⊢
  have dividend : (Value.uint .u32 10).IsInteger 10 := Value.isInteger_uint rfl _
  have divisor : (Value.float .f64 x).IsWholeFloat (-3) := Value.isWholeFloat_float rfl negative
  obtain ⟨p, ruled, words⟩ :=
    ruling_of_wholeDivisor (ofConfig .standard) dividend divisor .detached
  have known := (words.solve (ofConfig .standard) ruled rfl (by decide) .empty).1.1
  have unsigned : (Value.uint .u32 10).type.unwrap.isSignedInteger = false := by decide +kernel
  rw [unsigned, Bool.false_and] at known
  exact ⟨_, _, rfl, rfl, dividend, divisor, known.trans (by decide), by decide⟩

end Solver

end BinarySolver
