/-
# BinarySolver.Proofs.IntegerFolding -- integers fold as whole numbers do, modulo `2 ^ 64`

A constant represents a whole number as a signed or as an unsigned word
(`Constant.Represents`).  The left one of two integers decides the representation, and
folding is then the arithmetic of the numbers (`fold_integers`): sums, differences, products
and the operators on bits are reduced into the range of the left representation, comparisons
and remainders take the right number reduced into that range first, and of divisions only
those by zero have no value.  On bits a number counts as written in two's complement with
its sign repeated for ever, which is how `Int.land`, `Int.lor` and `Int.xor` read it.
-/
import Mathlib.Data.Int.Bitwise
import BinarySolver.Proofs.WholeRemainder

namespace BinarySolver

set_option autoImplicit false

/-! ## Words of whole numbers -/

namespace Constant

theorem getLsbD_ofInt (w : Nat) (n : Int) (i : Nat) :
    (BitVec.ofInt w n).getLsbD i = (decide (i < w) && n.testBit i) := by
  cases n with
  | ofNat m => exact BitVec.getLsbD_ofNat w m i
  | negSucc m =>
      rw [BitVec.ofInt_negSucc_eq_not_ofNat, BitVec.getLsbD_not, BitVec.getLsbD_ofNat,
        Int.testBit]
      cases decide (i < w) <;> simp

theorem toBitVec_ofInt (n : Int) : (UInt64.ofInt n).toBitVec = BitVec.ofInt 64 n := by
  apply BitVec.eq_of_toNat_eq
  rw [UInt64.toNat_toBitVec, toNat_ofInt, BitVec.toNat_ofInt]
  rfl

/-- Words are the same if their bits below 64 are. -/
theorem ofInt_eq_of_testBit {n : Int} {w : UInt64}
    (bits : ∀ i, i < 64 → n.testBit i = w.toBitVec.getLsbD i) : UInt64.ofInt n = w := by
  apply UInt64.toBitVec_inj.1
  refine BitVec.eq_of_getLsbD_eq fun i below => ?_
  rw [toBitVec_ofInt, getLsbD_ofInt, decide_eq_true below, Bool.true_and, bits i below]

end Constant

namespace WordOp

/-- What an operator does to whole numbers. -/
def onIntegers : WordOp → Int → Int → Int
  | add, a, b => a + b
  | sub, a, b => a - b
  | mul, a, b => a * b
  | bitAnd, a, b => a.land b
  | bitOr, a, b => a.lor b
  | bitXor, a, b => a.xor b

/-- An operator on words is the operator on the whole numbers of which they are the words. -/
theorem apply_ofInt (op : WordOp) (a b : Int) :
    op.apply (UInt64.ofInt a) (UInt64.ofInt b) = UInt64.ofInt (op.onIntegers a b) := by
  have bit : ∀ (n : Int) (i : Nat), i < 64 →
      (UInt64.ofInt n).toBitVec.getLsbD i = n.testBit i := by
    intro n i below
    rw [Constant.toBitVec_ofInt, Constant.getLsbD_ofInt, decide_eq_true below, Bool.true_and]
  symm
  cases op with
  | add => exact UInt64.ofInt_add a b
  | sub =>
      show UInt64.ofInt (a - b) = UInt64.ofInt a - UInt64.ofInt b
      rw [Int.sub_eq_add_neg, UInt64.ofInt_add, UInt64.ofInt_neg, UInt64.sub_eq_add_neg]
  | mul => exact UInt64.ofInt_mul a b
  | bitAnd =>
      refine Constant.ofInt_eq_of_testBit fun i below => ?_
      rw [onIntegers, apply, Int.testBit_land, UInt64.toBitVec_and, BitVec.getLsbD_and,
        bit a i below, bit b i below]
  | bitOr =>
      refine Constant.ofInt_eq_of_testBit fun i below => ?_
      rw [onIntegers, apply, Int.testBit_lor, UInt64.toBitVec_or, BitVec.getLsbD_or,
        bit a i below, bit b i below]
  | bitXor =>
      refine Constant.ofInt_eq_of_testBit fun i below => ?_
      rw [onIntegers, apply, Int.testBit_lxor, UInt64.toBitVec_xor, BitVec.getLsbD_xor,
        bit a i below, bit b i below]

end WordOp

namespace BinaryOp

/-- What a comparison asks of whole numbers. -/
def relation? : BinaryOp → Option (Int → Int → Prop)
  | eq => some (· = ·)
  | ne => some (· ≠ ·)
  | lt => some (· < ·)
  | gt => some (· > ·)
  | le => some (· ≤ ·)
  | ge => some (· ≥ ·)
  | _ => none

theorem isComparison_of_relation? {op : BinaryOp} {asked : Int → Int → Prop}
    (relation : op.relation? = some asked) : op.isComparison = true := by
  cases op <;> first | rfl | cases relation

end BinaryOp

namespace Constant

variable {c l r : Constant} {signed signed' : Bool} {a b n : Int}

/-! ## Representations -/

/-- A constant in the signed or in the unsigned representation of integers, and the whole
number that it is there. -/
inductive Represents : Constant → Bool → Int → Prop where
  | int (x : Int64) : Represents (int x) true x.toInt
  | uint (x : UInt64) : Represents (uint x) false x.toNat

/-- A number that is no float represents a whole number, in the one way or the other. -/
theorem exists_represents (number : c.isNumber = true) (whole : c.isFloat = false) :
    ∃ signed n, c.Represents signed n := by
  cases c with
  | bool => cases number
  | str => cases number
  | float => cases whole
  | int x => exact ⟨_, _, .int x⟩
  | uint x => exact ⟨_, _, .uint x⟩

/-- A word represents the number to which it wraps. -/
theorem represents_word (signed : Bool) (n : Int) :
    (word signed n).Represents signed (wrapped signed n) := by
  cases signed with
  | true =>
      rw [← toInt_ofInt]
      exact .int _
  | false =>
      rw [← natCast_toNat_ofInt]
      exact .uint _

namespace Represents

/-- A constant is the word of the number that it represents. -/
theorem eq_word (represents : c.Represents signed n) : c = word signed n := by
  cases represents with
  | int x => exact congrArg Constant.int (Int64.ofInt_toInt x).symm
  | uint x => exact congrArg Constant.uint (ofInt_toNat x).symm

theorem ranges (represents : c.Represents signed n) : Ranges signed n := by
  cases represents with
  | int x => exact ⟨x.le_toInt, x.toInt_lt⟩
  | uint x => exact ⟨Int.natCast_nonneg _, by exact_mod_cast x.toNat_lt⟩

theorem isWord (represents : c.Represents signed n) : c.IsWord (UInt64.ofInt n) :=
  represents.eq_word ▸ isWord_word signed n

theorem holdsWord (represents : c.Represents signed n) : c.HoldsWord n := by
  cases represents with
  | int x =>
      have low := x.le_toInt
      have high := x.toInt_lt
      exact ⟨rfl, low, by omega⟩
  | uint x =>
      have high := x.toNat_lt
      exact ⟨rational?_uint x, by omega, by omega⟩

end Represents

/-! ## Operator by operator -/

/-- The left word decides the representation, whichever that of the right one is. -/
theorem fold_onIntegers (op : WordOp) (signed : Bool) (a : Int)
    (right : r.IsWord (UInt64.ofInt b)) :
    fold op.toBinary (word signed a) r = .value (word signed (op.onIntegers a b)) := by
  have unsigned := right.asUInt64?_eq
  cases signed with
  | true =>
      have converted := right.asInt64?_eq
      have folded : fold op.toBinary (int (UInt64.ofInt a).toInt64) r =
          .value (int (op.apply (UInt64.ofInt a) (UInt64.ofInt b)).toInt64) := by
        simp only [fold, converted, unsigned]
        cases op <;> rfl
      rw [WordOp.apply_ofInt, toInt64_ofInt, toInt64_ofInt] at folded
      exact folded
  | false =>
      have folded : fold op.toBinary (uint (UInt64.ofInt a)) r =
          .value (uint (op.apply (UInt64.ofInt a) (UInt64.ofInt b))) := by
        simp only [fold, unsigned]
        cases op <;> rfl
      rw [WordOp.apply_ofInt] at folded
      exact folded

/-- What is ordered as whole numbers are is compared as they are. -/
theorem compare_relation {α : Type} [BEq α] [LT α] [LE α] [DecidableLT α] [DecidableLE α]
    {number : α → Int} (equal : ∀ x y, (x == y) = decide (number x = number y))
    (less : ∀ x y, x < y ↔ number x < number y) (atMost : ∀ x y, x ≤ y ↔ number x ≤ number y)
    {op : BinaryOp} {asked : Int → Int → Prop} (relation : op.relation? = some asked) (x y : α) :
    ∃ t, compare op x y = some t ∧ (t = true ↔ asked (number x) (number y)) := by
  cases op with
  | eq =>
      cases relation
      exact ⟨_, rfl, by rw [equal, decide_eq_true_iff]⟩
  | ne =>
      cases relation
      exact ⟨_, rfl, by rw [equal, Bool.not_eq_true', decide_eq_false_iff_not]⟩
  | lt =>
      cases relation
      exact ⟨_, rfl, by rw [decide_eq_true_iff, less]⟩
  | gt =>
      cases relation
      exact ⟨_, rfl, by rw [decide_eq_true_iff, less]⟩
  | le =>
      cases relation
      exact ⟨_, rfl, by rw [decide_eq_true_iff, atMost]⟩
  | ge =>
      cases relation
      exact ⟨_, rfl, by rw [decide_eq_true_iff, atMost]⟩
  | _ => cases relation

/-- The number to the right is compared as it is in the left representation. -/
theorem fold_relation {op : BinaryOp} {asked : Int → Int → Prop}
    (relation : op.relation? = some asked) (left : l.Represents signed a)
    (right : r.IsWord (UInt64.ofInt b)) :
    ∃ t, fold op l r = .value (bool t) ∧ (t = true ↔ asked a (wrapped signed b)) := by
  have comparison := BinaryOp.isComparison_of_relation? relation
  have unsigned := right.asUInt64?_eq
  cases left with
  | int x =>
      have converted := right.asInt64?_eq
      rw [toInt64_ofInt] at converted
      have equal : ∀ x y : Int64, (x == y) = decide (x.toInt = y.toInt) := by
        intro x y
        rw [Bool.eq_iff_iff, beq_iff_eq, decide_eq_true_iff, Int64.toInt_inj]
      obtain ⟨t, compared, means⟩ := compare_relation equal
        (fun _ _ => Int64.lt_iff_toInt_lt) (fun _ _ => Int64.le_iff_toInt_le) relation x
        (Int64.ofInt b)
      refine ⟨t, ?_, by rw [means, toInt_ofInt]⟩
      simp only [fold, converted, unsigned]
      exact foldInt_of_compare comparison compared _
  | uint x =>
      have equal : ∀ x y : UInt64, (x == y) = decide ((x.toNat : Int) = y.toNat) := by
        intro x y
        rw [Bool.eq_iff_iff, beq_iff_eq, decide_eq_true_iff, Int.natCast_inj, UInt64.toNat_inj]
      obtain ⟨t, compared, means⟩ := compare_relation equal
        (fun _ _ => UInt64.lt_iff_toNat_lt.trans Int.ofNat_lt.symm)
        (fun _ _ => UInt64.le_iff_toNat_le.trans Int.ofNat_le.symm) relation x (UInt64.ofInt b)
      refine ⟨t, ?_, by rw [means, natCast_toNat_ofInt]⟩
      simp only [fold, unsigned]
      exact foldUInt_of_compare comparison compared

/-- An integer is divided by an integer as the float next to each. -/
theorem fold_div (left : l.Represents signed a) (right : r.IsWord (UInt64.ofInt b))
    (nonzero : UInt64.ofInt b ≠ 0) :
    fold .div l r =
      .value (float (Float.ofInt a / Float.ofInt (wrapped signed b))) := by
  have unsigned := right.asUInt64?_eq
  cases left with
  | int x =>
      have converted := right.asInt64?_eq
      have divisor : Int64.ofInt b ≠ 0 := by
        rwa [← toInt64_ofInt, ne_eq, toInt64_eq_zero_iff]
      rw [toInt64_ofInt] at converted
      simp [fold, converted, unsigned, foldInt, divisor, ← toInt_ofInt]
  | uint x =>
      rw [← natCast_toNat_ofInt]
      simp only [fold, unsigned, foldUInt, if_neg nonzero]
      rfl

/-- A logical operator has no meaning on integers. -/
theorem fold_logical {op : BinaryOp} (logical : op.isLogical = true)
    (left : l.Represents signed a) (right : r.IsWord (UInt64.ofInt b)) :
    fold op l r = .undefined := by
  have unsigned := right.asUInt64?_eq
  cases left with
  | int x =>
      have converted := right.asInt64?_eq
      simp only [fold, converted, unsigned]
      cases op <;> first | rfl | cases logical
  | uint x =>
      simp only [fold, unsigned]
      cases op <;> first | rfl | cases logical

/-! ## All operators -/

/-- **Integers fold as whole numbers do, in the representation of the left one.**  Let `l`
represent `a` and `r` represent `b`, each as a signed or as an unsigned word, and let `b'` be
`b` reduced modulo `2 ^ 64` into the range of the representation of `l`.

* Sums, differences, products and the operators on bits always have a value: the number
  reduced into that range, in that representation.
* A comparison always has a value: whether it holds of `a` and `b'`.
* A remainder and a quotient have none if and only if `b` is zero; otherwise the remainder is
  that of `a` by `b'`, with the sign of `a`, and the quotient is a float.
* Logical operators have no meaning. -/
theorem fold_integers (left : l.Represents signed a) (right : r.Represents signed' b) :
    let b' := wrapped signed b
    (∀ op : WordOp, ∃ c, fold op.toBinary l r = .value c ∧
        c.Represents signed (wrapped signed (op.onIntegers a b))) ∧
      (∀ op asked, BinaryOp.relation? op = some asked →
        ∃ t, fold op l r = .value (bool t) ∧ (t = true ↔ asked a b')) ∧
      ((fold .rem l r = .zeroDivisor ↔ b = 0) ∧
        (b ≠ 0 → ∃ c, fold .rem l r = .value c ∧ c.Represents signed (a.tmod b'))) ∧
      ((fold .div l r = .zeroDivisor ↔ b = 0) ∧
        (b ≠ 0 → fold .div l r = .value (float (Float.ofInt a / Float.ofInt b')))) ∧
      (∀ op, BinaryOp.isLogical op = true → fold op l r = .undefined) := by
  intro b'
  have leftWord := left.isWord
  have rightWord := right.isWord
  have zero := right.holdsWord.ofInt_eq_zero_iff
  refine ⟨fun op => ?_, fun op asked relation => fold_relation relation left rightWord,
    ⟨?_, fun nonzero => ?_⟩, ⟨?_, fun nonzero => ?_⟩,
    fun op logical => fold_logical logical left rightWord⟩
  · refine ⟨_, ?_, represents_word signed _⟩
    rw [left.eq_word]
    exact fold_onIntegers op signed a rightWord
  · rw [fold_quotient_word (.inr rfl) leftWord rightWord, zero]
  · have folded : fold .rem (word signed a) r = _ := fold_rem_word rightWord (mt zero.1 nonzero)
    rw [← left.eq_word, wrapped_of_ranges left.ranges] at folded
    refine ⟨_, folded, ?_⟩
    have represented := represents_word signed (a.tmod b')
    have range := ranges_tmod signed a b
    rw [wrapped_of_ranges left.ranges] at range
    rwa [wrapped_of_ranges range] at represented
  · rw [fold_quotient_word (.inl rfl) leftWord rightWord, zero]
  · exact fold_div left rightWord (mt zero.1 nonzero)

/-- The least signed word has no remainder by the largest unsigned one, which is -1 there. -/
theorem fold_integers_min_rem :
    (int (-0x8000000000000000)).Represents true (-2 ^ 63) ∧
      (uint 0xFFFFFFFFFFFFFFFF).Represents false (2 ^ 64 - 1) ∧
      wrapped true (2 ^ 64 - 1) = -1 ∧
      fold .rem (int (-0x8000000000000000)) (uint 0xFFFFFFFFFFFFFFFF) = .value (int 0) := by
  have left : (int (-0x8000000000000000)).Represents true (-2 ^ 63) := .int _
  have right : (uint 0xFFFFFFFFFFFFFFFF).Represents false (2 ^ 64 - 1) := .uint _
  obtain ⟨-, -, ⟨-, remainder⟩, -⟩ := fold_integers left right
  obtain ⟨c, folded, represents⟩ := remainder (by decide)
  refine ⟨left, right, by decide, ?_⟩
  rw [folded, represents.eq_word]
  decide

end Constant

end BinarySolver
