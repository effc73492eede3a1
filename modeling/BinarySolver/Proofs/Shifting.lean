/-
# BinarySolver.Proofs.Shifting -- shifts multiply and divide by powers of two

A word of the machine can be shifted by less than 64 bits only, so folding takes the amounts
from 64 on apart, and with them the directions and the signs.  On the whole numbers that the
constants represent all of that is one formula (`fold_shifts`): to the left a number is
multiplied by `2 ^ k` and reduced into the range of a word, to the right it is divided by
`2 ^ k` and rounded down, for every amount `k`.  The result is signed if and only if the
number is negative, whatever the representation of the number was.
-/
import Mathlib.Tactic.Linarith
import BinarySolver.Proofs.IntegerFolding

namespace BinarySolver

set_option autoImplicit false

namespace BinaryOp

/-- What a shift does to a whole number, by an amount without a bound. -/
def shifting? : BinaryOp → Option (Int → Nat → Int)
  | shl => some fun a k => a * 2 ^ k
  | shr => some fun a k => a / 2 ^ k
  | _ => none

theorem isShift_of_shifting? {op : BinaryOp} {shifting : Int → Nat → Int}
    (shift : op.shifting? = some shifting) : op.isShift = true := by
  cases op <;> first | rfl | cases shift

theorem isLogical_of_isShift {op : BinaryOp} (shift : op.isShift = true) :
    op.isLogical = false := by
  cases op <;> first | rfl | cases shift

end BinaryOp

namespace Constant

variable {l r : Constant} {signed signed' : Bool} {a b : Int} {k : Nat} {y : UInt64}

/-! ## By 64 bits and more -/

/-- Nothing of a number that is multiplied by so large a power is left in a word. -/
theorem wrapped_mul_two_pow_of_le (signed : Bool) (a : Int) (large : 64 ≤ k) :
    wrapped signed (a * 2 ^ k) = 0 := by
  have divides : (2 : Int) ^ 64 ∣ a * 2 ^ k := (pow_dvd_pow 2 large).mul_left a
  cases signed with
  | true => exact Int.bmod_eq_zero_of_dvd divides
  | false => exact Int.emod_eq_zero_of_dvd divides

theorem ofInt_mul_two_pow_of_le (a : Int) (large : 64 ≤ k) : UInt64.ofInt (a * 2 ^ k) = 0 := by
  apply UInt64.toNat_inj.1
  apply Int.natCast_inj.1
  rw [natCast_toNat_ofInt, wrapped_mul_two_pow_of_le false a large]
  rfl

/-- Nothing but the sign is left of a word that is divided by so large a power. -/
theorem div_two_pow_of_le (low : -2 ^ 63 ≤ a) (high : a < 2 ^ 64) (large : 64 ≤ k) :
    a / 2 ^ k = if a < 0 then -1 else 0 := by
  have power : (2 : Int) ^ 64 ≤ 2 ^ k := pow_le_pow_right₀ (by decide) large
  split
  · exact (Int.ediv_eq_iff_of_pos (by omega)).2 (by omega)
  · exact Int.ediv_eq_zero_of_lt (by omega) (by omega)

/-! ## Words -/

theorem toNat_ofInt_two_pow (below : k < 64) : (UInt64.ofInt (2 ^ k)).toNat = 2 ^ k := by
  have bound : (2 : Int) ^ k < 2 ^ 64 := pow_lt_pow_right₀ (by decide) below
  have nonneg : (0 : Int) ≤ 2 ^ k := by positivity
  rw [toNat_ofInt, Int.emod_eq_of_lt nonneg bound]
  exact Int.toNat_pow_of_nonneg (by decide) k

theorem shiftLeft_ofInt (a : Int) (y : UInt64) :
    shiftLeft (UInt64.ofInt a) y = UInt64.ofInt (a * 2 ^ y.toNat) := by
  unfold shiftLeft
  split
  · rename_i large
    exact (ofInt_mul_two_pow_of_le a large).symm
  · rename_i small
    have below : y.toNat < 64 := Nat.not_le.1 small
    apply UInt64.toNat_inj.1
    rw [UInt64.ofInt_mul, UInt64.toNat_shiftLeft, UInt64.toNat_mul, toNat_ofInt_two_pow below,
      Nat.shiftLeft_eq, Nat.mod_eq_of_lt below]

theorem shiftRight_eq (x y : UInt64) :
    shiftRight x y = UInt64.ofInt (x.toNat / 2 ^ y.toNat) := by
  have bits : (shiftRight x y).toNat = x.toNat / 2 ^ y.toNat := by
    have high := x.toNat_lt
    unfold shiftRight
    split
    · rename_i large
      have power : 2 ^ 64 ≤ 2 ^ y.toNat := Nat.pow_le_pow_right (by decide) large
      exact (Nat.div_eq_of_lt (by omega)).symm
    · rename_i small
      have below : y.toNat < 64 := Nat.not_le.1 small
      rw [UInt64.toNat_shiftRight, Nat.shiftRight_eq_div_pow, Nat.mod_eq_of_lt below]
  rw [← ofInt_toNat (shiftRight x y), bits]
  norm_cast

/-- A signed word is shifted to the left as the unsigned one of the same bits is. -/
theorem shiftLeftSigned_eq (x : Int64) (y : UInt64) :
    shiftLeftSigned x y = Int64.ofInt (x.toInt * 2 ^ y.toNat) := by
  have bits : (shiftLeftSigned x y).toUInt64 = shiftLeft x.toUInt64 y := by
    by_cases below : y < 64
    · rw [toUInt64_shiftLeftSigned x below, shiftLeft_of_lt _ below]
    · rw [shiftLeftSigned, shiftLeft, if_pos (UInt64.not_lt.1 below),
        if_pos (UInt64.not_lt.1 below)]
      rfl
  have word : x.toUInt64 = UInt64.ofInt x.toInt := by
    rw [← toUInt64_ofInt, Int64.ofInt_toInt]
  rw [← Int64.toInt64_toUInt64 (shiftLeftSigned x y), bits, word, shiftLeft_ofInt, toInt64_ofInt]

theorem toInt_shiftRight_of_lt (x m : Int64) (below : m.toBitVec.toNat < 64) :
    (x >>> m).toInt = x.toInt / 2 ^ m.toBitVec.toNat := by
  rw [← Int64.toInt_toBitVec, Int64.toBitVec_shiftRight, smod_of_lt below,
    BitVec.toInt_sshiftRight', Int.shiftRight_eq_div_pow, Int64.toInt_toBitVec]
  rfl

/-- A shift by 63 bits leaves the sign, and so does one by more. -/
theorem toInt_shiftRightSigned (x : Int64) (y : UInt64) :
    (shiftRightSigned x y).toInt = x.toInt / 2 ^ y.toNat := by
  have low := x.le_toInt
  have high := x.toInt_lt
  unfold shiftRightSigned
  split
  · rename_i large
    have large : 64 ≤ y.toNat := large
    have last : (63 : Int64).toBitVec.toNat = 63 := rfl
    rw [toInt_shiftRight_of_lt x 63 (by decide), last, div_two_pow_of_le low (by omega) large]
    split <;> omega
  · rename_i small
    exact toInt_shiftRight_of_lt x y.toInt64 (Nat.not_le.1 small)

/-! ## Constants -/

section Shift

variable {op : BinaryOp} {shifting : Int → Nat → Int}

theorem foldUInt_shifting (shift : op.shifting? = some shifting) (x y : UInt64) :
    foldUInt op x y = .value (uint (UInt64.ofInt (shifting x.toNat y.toNat))) := by
  cases op with
  | shl =>
      cases shift
      have shifted := shiftLeft_ofInt x.toNat y
      rw [ofInt_toNat] at shifted
      exact congrArg (Folding.value ∘ uint) shifted
  | shr =>
      cases shift
      exact congrArg (Folding.value ∘ uint) (shiftRight_eq x y)
  | _ => cases shift

/-- A signed word that is not negative is shifted as an unsigned one. -/
theorem foldInt_shifting_of_nonneg (shift : op.shifting? = some shifting) {x : Int64}
    (nonneg : 0 ≤ x.toInt) (m : Int64) (y : UInt64) :
    foldInt op x m y = .value (uint (UInt64.ofInt (shifting x.toInt y.toNat))) := by
  have sign : 0 ≤ x := Int64.le_iff_toInt_le.2 nonneg
  have high := x.toInt_lt
  have number : (x.toUInt64.toNat : Int) = x.toInt := by
    rw [← Int64.ofInt_toInt x, toUInt64_ofInt, natCast_toNat_ofInt, Int64.ofInt_toInt]
    exact Int.emod_eq_of_lt nonneg (by omega)
  rw [← number, ← foldUInt_shifting shift]
  cases op with
  | shl => rw [foldInt, foldUInt, if_pos sign]
  | shr => rw [foldInt, foldUInt, if_pos sign]
  | _ => cases shift

theorem foldInt_shifting_of_neg (shift : op.shifting? = some shifting) {x : Int64}
    (negative : x.toInt < 0) (m : Int64) (y : UInt64) :
    foldInt op x m y = .value (int (Int64.ofInt (shifting x.toInt y.toNat))) := by
  have sign : ¬ 0 ≤ x := fun nonneg => Int.not_le.2 negative (Int64.le_iff_toInt_le.1 nonneg)
  cases op with
  | shl =>
      cases shift
      rw [foldInt, if_neg sign, shiftLeftSigned_eq]
  | shr =>
      cases shift
      have shifted := Int64.ofInt_toInt (shiftRightSigned x y)
      rw [toInt_shiftRightSigned] at shifted
      rw [foldInt, if_neg sign, shifted]
  | _ => cases shift

/-- A number is shifted as a word of the signedness that its sign asks for. -/
theorem fold_shifting (shift : op.shifting? = some shifting) (left : l.Represents signed a)
    (right : r.IsWord y) :
    fold op l r = .value (word (decide (a < 0)) (shifting a y.toNat)) := by
  have unsigned := right.asUInt64?_eq
  cases left with
  | int x =>
      have converted := right.asInt64?_eq
      simp only [fold, converted, unsigned]
      by_cases negative : x.toInt < 0
      · rw [decide_eq_true negative]
        exact foldInt_shifting_of_neg shift negative _ y
      · rw [decide_eq_false negative]
        exact foldInt_shifting_of_nonneg shift (Int.not_lt.1 negative) _ y
  | uint x =>
      have nonneg : ¬ (x.toNat : Int) < 0 := Int.not_lt.2 (Int.natCast_nonneg _)
      simp only [fold, unsigned]
      rw [decide_eq_false nonneg]
      exact foldUInt_shifting shift x y

end Shift

/-- A number that is divided by a power of two stays in the range of a word, which is signed
if the number is negative. -/
theorem HoldsWord.ranges_div_two_pow (word : l.HoldsWord a) (k : Nat) :
    Ranges (decide (a < 0)) (a / 2 ^ k) := by
  have least := word.low
  have most := word.high
  have positive : (0 : Int) < 2 ^ k := by positivity
  by_cases negative : a < 0
  · rw [decide_eq_true negative]
    have low : a ≤ a / 2 ^ k := Int.le_ediv_of_mul_le positive (by nlinarith)
    have high : a / 2 ^ k < 0 := Int.ediv_neg_of_neg_of_pos negative positive
    exact ⟨by omega, by omega⟩
  · rw [decide_eq_false negative]
    have nonneg : 0 ≤ a := Int.not_lt.1 negative
    have high : a / 2 ^ k ≤ a := Int.ediv_le_self _ nonneg
    exact ⟨Int.ediv_nonneg nonneg positive.le, by omega⟩

/-- What is left of a word that is shifted by 64 bits or more. -/
theorem wrapped_shifting_of_le {op : BinaryOp} {shifting : Int → Nat → Int}
    (shift : op.shifting? = some shifting) (word : l.HoldsWord a) (large : 64 ≤ k) :
    wrapped (decide (a < 0)) (shifting a k) = 0 ∨ wrapped (decide (a < 0)) (shifting a k) = -1 := by
  cases op with
  | shl =>
      cases shift
      exact .inl (wrapped_mul_two_pow_of_le _ a large)
  | shr =>
      cases shift
      have left := wrapped_of_ranges (word.ranges_div_two_pow k)
      have sign := div_two_pow_of_le word.low word.high large
      show wrapped _ (a / 2 ^ k) = 0 ∨ wrapped _ (a / 2 ^ k) = -1
      rw [left, sign]
      split
      · exact .inr rfl
      · exact .inl rfl
  | _ => cases shift

/-- **Shifts multiply and divide by powers of two.**  Let `l` represent `a` and `r` represent
`b`, each as a signed or as an unsigned word, and let `k` be `b` reduced modulo `2 ^ 64`.  A
shift always has a value, which is signed if and only if `a` is negative: to the left it
is `a * 2 ^ k` reduced into the range of such a word, to the right `a / 2 ^ k` rounded down.
So for `k` from 64 on nothing of `a` is left, but that a negative number to the right is -1. -/
theorem fold_shifts (left : l.Represents signed a) (right : r.Represents signed' b) :
    let k := (b % 2 ^ 64).toNat
    let negative := decide (a < 0)
    (∃ c, fold .shl l r = .value c ∧ c.Represents negative (wrapped negative (a * 2 ^ k))) ∧
      (∃ c, fold .shr l r = .value c ∧ c.Represents negative (a / 2 ^ k)) ∧
      (64 ≤ k → wrapped negative (a * 2 ^ k) = 0 ∧ a / 2 ^ k = if a < 0 then -1 else 0) := by
  intro k negative
  have amount : (UInt64.ofInt b).toNat = k := toNat_ofInt b
  have shl : BinaryOp.shifting? .shl = some fun a k => a * 2 ^ k := rfl
  have shr : BinaryOp.shifting? .shr = some fun a k => a / 2 ^ k := rfl
  have toLeft := fold_shifting shl left right.isWord
  have toRight := fold_shifting shr left right.isWord
  rw [amount] at toLeft toRight
  refine ⟨⟨_, toLeft, represents_word _ _⟩, ⟨_, toRight, ?_⟩, fun large => ⟨?_, ?_⟩⟩
  · have represents := represents_word negative (a / 2 ^ k)
    rwa [wrapped_of_ranges (left.holdsWord.ranges_div_two_pow k)] at represents
  · exact wrapped_mul_two_pow_of_le negative a large
  · exact div_two_pow_of_le left.holdsWord.low left.holdsWord.high large

/-- A negative amount is a large one: -8 is shifted by `2 ^ 64 - 1` bits. -/
theorem fold_shifts_by_minus_one :
    (int (-8)).Represents true (-8) ∧ (int (-1)).Represents true (-1) ∧
      fold .shl (int (-8)) (int (-1)) = .value (int 0) ∧
      fold .shr (int (-8)) (int (-1)) = .value (int (-1)) := by
  have left : (int (-8)).Represents true (-8) := .int (-8)
  have right : (int (-1)).Represents true (-1) := .int (-1)
  obtain ⟨⟨c, toLeft, product⟩, ⟨d, toRight, quotient⟩, large⟩ := fold_shifts left right
  obtain ⟨zero, sign⟩ := large (by decide)
  rw [zero] at product
  rw [sign] at quotient
  refine ⟨left, right, ?_, ?_⟩
  · rw [toLeft, product.eq_word]
    rfl
  · rw [toRight, quotient.eq_word]
    rfl

end Constant

end BinarySolver
