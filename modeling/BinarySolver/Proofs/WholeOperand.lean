/-
# BinarySolver.Proofs.WholeOperand -- the remainder of an integer and a float

Beside an integer a known float is made an integer, if it holds a whole number that is a
word of one of the two signednesses (`Constant.HoldsWord`).  It is then the word to which
that number wraps, typed as the integer, or as a `u64` where the integer is signed and the
number is too large (`wholeOperand?_of_holdsWord`); nothing else is made an integer
(`wholeOperand?_eq_none`).
-/
import BinarySolver.Proofs.ExactValue
import BinarySolver.Proofs.Ordering

namespace BinarySolver

set_option autoImplicit false

open Numeral

namespace Numeral

variable {n : Int}

theorem toInt64?_of_lt (low : -2 ^ 63 ≤ n) (high : n < 2 ^ 63) :
    toInt64? n = some (Int64.ofInt n) := by
  unfold toInt64? minInt64 maxInt64
  rw [if_pos (by omega)]

theorem toInt64?_of_ge (large : 2 ^ 63 ≤ n) : toInt64? n = none := by
  unfold toInt64? minInt64 maxInt64
  rw [if_neg (by omega)]

theorem toUInt64?_of_nonneg (low : 0 ≤ n) (high : n < 2 ^ 64) :
    toUInt64? n = some (UInt64.ofInt n) := by
  have word : n % 2 ^ 64 = n := by omega
  unfold toUInt64? maxUInt64
  rw [if_pos (by omega), UInt64.ofInt, word]

theorem toUInt64?_of_neg (negative : n < 0) : toUInt64? n = none := by
  unfold toUInt64?
  rw [if_neg (by omega)]

end Numeral

namespace Constant

variable {c l r : Constant} {n : Int} {x y : UInt64} {op : BinaryOp}

/-- The constant is a whole number, and a signed or an unsigned word. -/
structure HoldsWord (c : Constant) (n : Int) : Prop where
  exact : c.rational? = some (n : ℚ)
  low : -2 ^ 63 ≤ n
  high : n < 2 ^ 64

theorem holdsWord_zero (zero : c.rational? = some 0) : c.HoldsWord 0 :=
  ⟨by rw [zero, Int.cast_zero], by decide, by decide⟩

/-- The least float that is too large for a signed word. -/
theorem holdsWord_two_pow_63 : (float (Float.ofBits 0x43E0000000000000)).HoldsWord (2 ^ 63) := by
  have bits : Binary.ofFloat (Float.ofBits 0x43E0000000000000) = .finite false (2 ^ 52) 11 := by
    rfl
  refine ⟨(toInt?_eq_some_iff _ _).1 ?_, by decide, by decide⟩
  rw [toInt?, bits]
  decide

theorem HoldsWord.rational?_eq_zero_iff (word : c.HoldsWord n) : c.rational? = some 0 ↔ n = 0 := by
  rw [word.exact, Option.some_inj, Int.cast_eq_zero]

/-- A whole number wraps to zero only if it is zero. -/
theorem HoldsWord.ofInt_eq_zero_iff (word : c.HoldsWord n) : UInt64.ofInt n = 0 ↔ n = 0 := by
  have low := word.low
  have high := word.high
  have zero : (0 : UInt64).toNat = 0 := rfl
  rw [← UInt64.toNat_inj, toNat_ofInt]
  omega

/-- The word to which a whole number wraps, as a signed or as an unsigned number. -/
def word (signed : Bool) (n : Int) : Constant :=
  if signed then int (Int64.ofInt n) else uint (UInt64.ofInt n)

theorem isWord_word (signed : Bool) (n : Int) : (word signed n).IsWord (UInt64.ofInt n) := by
  cases signed with
  | true => exact .inl (congrArg int (toInt64_ofInt n).symm)
  | false => exact .inr rfl

/-- A whole number beside an integer of a signedness: a signed word only if it is one. -/
def ofWhole (signed : Bool) (n : Int) : Constant := word (signed && decide (n < 2 ^ 63)) n

theorem toInt64_eq_zero_iff (y : UInt64) : y.toInt64 = 0 ↔ y = 0 :=
  ⟨fun zero => UInt64.toUInt64_toInt64 y ▸ congrArg Int64.toUInt64 zero,
    fun zero => by rw [zero]; rfl⟩

/-- A word is zero in both representations. -/
theorem IsWord.rational?_eq_zero_iff (word : c.IsWord x) : c.rational? = some 0 ↔ x = 0 := by
  rcases word with rfl | rfl
  · rw [rational?, Option.some_inj, Int.cast_eq_zero, ← toInt64_eq_zero_iff, ← Int64.toInt_inj]
    rfl
  · rw [rational?, Option.some_inj, Nat.cast_eq_zero, ← UInt64.toNat_inj]
    rfl

/-- A number that is no float is a word. -/
theorem exists_isWord (number : c.isNumber = true) (whole : c.isFloat = false) :
    ∃ w, c.IsWord w := by
  cases c with
  | bool => cases number
  | str => cases number
  | float => cases whole
  | int x => exact ⟨_, isWord_int x⟩
  | uint x => exact ⟨x, .inr rfl⟩

/-- A word is divided by a word unless that is zero. -/
theorem fold_quotient_word (quotient : op = .div ∨ op = .rem) (left : l.IsWord x)
    (right : r.IsWord y) : fold op l r = .zeroDivisor ↔ y = 0 := by
  have unsigned := right.asUInt64?_eq
  rcases left with rfl | rfl
  · have signed := right.asInt64?_eq
    rw [← toInt64_eq_zero_iff]
    rcases quotient with rfl | rfl <;> simp [fold, signed, unsigned, foldInt]
  · rcases quotient with rfl | rfl <;> simp [fold, unsigned, foldUInt]

theorem exactInt64?_eq (whole : c.toInt? = some n) : c.exactInt64? = toInt64? n := by
  rw [exactInt64?, whole]
  rfl

theorem exactUInt64?_eq (whole : c.toInt? = some n) : c.exactUInt64? = toUInt64? n := by
  rw [exactUInt64?, whole]
  rfl

end Constant

namespace Descriptor

theorem isInteger_of_isFloat {d : Descriptor} (float : d.isFloat = true) : d.isInteger = false := by
  refine Bool.eq_false_iff.2 fun whole => ?_
  rw [isFloat_of_isInteger whole] at float
  cases float

theorem isInteger_of_isNumeric {d : Descriptor} (number : d.isNumeric = true)
    (whole : d.isFloat = false) : d.isInteger = true := by
  rwa [isNumeric_eq_or, whole, Bool.or_false] at number

/-- The type of a whole number beside an integer. -/
def ofWhole (integer : Descriptor) (n : Int) : Descriptor :=
  if integer.isSignedInteger && !decide (n < 2 ^ 63) then scalar .u64 else integer

theorem ofWhole_of_lt {integer : Descriptor} {n : Int} (small : n < 2 ^ 63) :
    integer.ofWhole n = integer := by
  rw [ofWhole, decide_eq_true small, Bool.not_true, Bool.and_false]
  rfl

/-- A whole number takes the type of the integer unless that is signed and too small. -/
theorem ofWhole_cases (integer : Descriptor) (n : Int) :
    integer.ofWhole n = integer ∨
      integer.isSignedInteger = true ∧ integer.ofWhole n = scalar .u64 := by
  unfold ofWhole
  split
  · rename_i large
    exact .inr ⟨(Bool.and_eq_true_iff.1 large).1, rfl⟩
  · exact .inl rfl

theorem isNumeric_ofWhole {integer : Descriptor} (whole : integer.isInteger = true) (n : Int) :
    (integer.ofWhole n).isNumeric = true := by
  rcases integer.ofWhole_cases n with same | ⟨-, same⟩
  · rw [same]
    exact isNumeric_of_isInteger whole
  · rw [same]
    exact isNumeric_scalar .u64

end Descriptor

/-- A value as a whole number beside an integer. -/
def Value.wholeBeside (v : Value) (integer : Descriptor) (n : Int) : Value :=
  { v with type := integer.ofWhole n, constant := some (.ofWhole integer.isSignedInteger n) }

namespace Solver

variable {integer known : Value} {c : Constant} {n : Int}

/-- A known whole number beside an integer is made the word to which it wraps. -/
theorem wholeOperand?_of_holdsWord (const : known.isConst = true)
    (constant : known.constant = some c) (word : c.HoldsWord n) :
    wholeOperand? integer known = some (known.wholeBeside integer.type n) := by
  have whole := (c.toInt?_eq_some_iff n).2 word.exact
  have low := word.low
  have high := word.high
  obtain ⟨type, payload, isConst, initializer, span⟩ := known
  cases const
  cases constant
  unfold wholeOperand?
  simp only [Bool.not_true, Bool.false_eq_true, if_false, Option.bind_some,
    Constant.exactInt64?_eq whole, Constant.exactUInt64?_eq whole,
    Value.wholeBeside, Constant.ofWhole, Constant.word, Descriptor.ofWhole]
  cases integer.type.isSignedInteger with
  | true =>
      rcases Int.lt_or_le n (2 ^ 63) with small | large
      · rw [toInt64?_of_lt low small, decide_eq_true small]
        rfl
      · rw [toInt64?_of_ge large, toUInt64?_of_nonneg (by omega) high,
          decide_eq_false (Int.not_lt.2 large)]
        rfl
  | false =>
      rcases Int.lt_or_le n 0 with negative | nonnegative
      · rw [toUInt64?_of_neg negative, toInt64?_of_lt low (by omega)]
        simp [Constant.toUInt64_ofInt]
      · rw [toUInt64?_of_nonneg nonnegative high]
        simp

/-- Nothing but a whole number that is a word is made an integer. -/
theorem wholeOperand?_eq_none (constant : known.constant = some c)
    (other : ∀ n, ¬ c.HoldsWord n) : wholeOperand? integer known = none := by
  have words : ∀ n, c.toInt? = some n → toInt64? n = none ∧ toUInt64? n = none := by
    intro n whole
    have outside : ¬ (-2 ^ 63 ≤ n ∧ n < 2 ^ 64) := fun word =>
      other n ⟨(c.toInt?_eq_some_iff n).1 whole, word.1, word.2⟩
    unfold toInt64? minInt64 maxInt64 toUInt64? maxUInt64
    exact ⟨if_neg (by omega), if_neg (by omega)⟩
  have none : c.exactInt64? = none ∧ c.exactUInt64? = none := by
    rw [Constant.exactInt64?, Constant.exactUInt64?]
    cases whole : c.toInt? with
    | none => exact ⟨rfl, rfl⟩
    | some n => exact words n whole
  unfold wholeOperand?
  rw [constant]
  simp [none]

section Remainder

variable {s : Solver} {o : Operation}

theorem floatRule_rem (rem : o.op = .rem) (left : o.left.type.isNumeric = true)
    (right : o.right.type.isNumeric = true) :
    s.floatRule o =
      match wholeRemainder? o with
      | some whole => s.integerRule whole
      | none => o.undefinedFor (o.signatureOf Descriptor.isFloat) := by
  unfold floatRule
  rw [left, right, rem]
  rfl

/-- The remainder of an integer by a whole number. -/
theorem floatRule_wholeDivisor (rem : o.op = .rem) (left : o.left.type.isInteger = true)
    (right : o.right.type.isNumeric = true) (const : o.right.isConst = true)
    (constant : o.right.constant = some c) (word : c.HoldsWord n) :
    s.floatRule o = s.integerRule { o with right := o.right.wholeBeside o.left.type n } := by
  rw [floatRule_rem rem (Descriptor.isNumeric_of_isInteger left) right, wholeRemainder?,
    if_pos left, wholeOperand?_of_holdsWord const constant word]
  rfl

/-- The remainder of a whole number by an integer. -/
theorem floatRule_wholeDividend (rem : o.op = .rem) (left : o.left.type.isFloat = true)
    (right : o.right.type.isInteger = true) (const : o.left.isConst = true)
    (constant : o.left.constant = some c) (word : c.HoldsWord n) :
    s.floatRule o = s.integerRule { o with left := o.left.wholeBeside o.right.type n } := by
  rw [floatRule_rem rem (Descriptor.isNumeric_of_isFloat left)
    (Descriptor.isNumeric_of_isInteger right), wholeRemainder?,
    if_neg (Bool.eq_false_iff.1 (Descriptor.isInteger_of_isFloat left)), if_pos right,
    wholeOperand?_of_holdsWord const constant word]
  rfl

end Remainder

end Solver

end BinarySolver
