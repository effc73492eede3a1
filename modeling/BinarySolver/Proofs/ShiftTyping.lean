/-
# BinarySolver.Proofs.ShiftTyping -- which folded shifts are of their types

The category of a folded shift is picked by the amount alone (`Width.ofShift`), while its
constant is the shifted number (`Constant.fold_shifting`), signed if that is negative.  As
nothing makes the two agree, a shift is a well-typed constant exactly if the amount is less
than 64, and the category that it picks is of the sign of the number and holds it
(`solve_shift`).  Any shift by less than 64 bits is a word that is folded further, and any
other one is zero or -1, of type `f32` or `f64`.
-/
import Mathlib.Tactic.Tauto
import BinarySolver.Proofs.Shifting

namespace BinarySolver

set_option autoImplicit false

open Category

namespace Width

variable {y : UInt64}

/-- The least of 8, 16, 32 and 64 bits that one shifted by an amount of less than 64 takes. -/
def ofAmount (k : Nat) : Nat :=
  if k < 8 then 8 else if k < 16 then 16 else if k < 32 then 32 else 64

/-- An amount of less than 64 picks a category of those bits, which is unsigned only if one
is shifted to the last of them. -/
theorem ofShift_of_lt (word : WordSize) (below : y.toNat < 64) :
    (ofShift y).bitWidth? word = some (ofAmount y.toNat) ∧
      (ofShift y).isUnsignedInteger = decide (y.toNat + 1 = ofAmount y.toNat) ∧
      (ofShift y).isSignedInteger = decide (y.toNat + 1 ≠ ofAmount y.toNat) := by
  unfold ofShift ofAmount
  generalize y.toNat = k at below ⊢
  cases word <;> dsimp only <;> decide +revert

/-- A larger amount picks a float: `f32` as far as the exponents of its finite numbers go, and
`f64` for any amount above that. -/
theorem ofShift_of_ge (large : 64 ≤ y.toNat) :
    ofShift y = if y.toNat ≤ 127 then .f32 else .f64 := by
  have noInteger : ∀ m ≤ 63, ¬ y.toNat ≤ m := by omega
  unfold ofShift
  simp only [noInteger, Nat.reduceLeDiff, if_false]

theorem isFloat_ofShift (large : 64 ≤ y.toNat) : (ofShift y).isFloat = true := by
  rw [ofShift_of_ge large]
  split <;> rfl

/-- No larger amount picks an integer. -/
theorem isInteger_ofShift_of_ge (large : 64 ≤ y.toNat) :
    (ofShift y).isSignedInteger = false ∧ (ofShift y).isUnsignedInteger = false := by
  have float := isFloat_ofShift large
  generalize ofShift y = k at float ⊢
  cases k <;> first | exact ⟨rfl, rfl⟩ | cases float

end Width

namespace Constant

variable {c : Constant} {word : WordSize} {signed : Bool} {n : Int} {y : UInt64}

/-- An integer is of the categories of its signedness. -/
theorem Represents.fits_scalar (represents : c.Represents signed n) (k : Category) :
    c.fits (.scalar k) = if signed then k.isSignedInteger else k.isUnsignedInteger := by
  cases represents with
  | int x => exact Descriptor.isSignedInteger_scalar k
  | uint x => exact Descriptor.isUnsignedInteger_scalar k

/-- An integer is well typed in a category of its signedness that holds it, and in no other. -/
theorem Represents.wellTyped_scalar_iff (represents : c.Represents signed n) (k : Category) :
    c.WellTyped word (.scalar k) ↔ c.fits (.scalar k) = true ∧ k.Holds word n := by
  have integer : c.integer? = some n := by cases represents <;> rfl
  refine ⟨fun typed => ⟨typed.fits, typed.holds n integer⟩, fun ⟨fits, holds⟩ => ?_⟩
  refine ⟨fits, Descriptor.unwrap_scalar k, fun m whole => ?_⟩
  rw [integer] at whole
  cases whole
  exact holds

/-- An integer is of the category that an amount picks if that is an integer, of the
signedness and with the bits for it. -/
theorem Represents.wellTyped_ofShift_iff (represents : c.Represents signed n) :
    c.WellTyped word (.scalar (Width.ofShift y)) ↔
      y.toNat < 64 ∧
        if signed then y.toNat + 1 ≠ Width.ofAmount y.toNat ∧
          HoldsSigned (Width.ofAmount y.toNat) n
        else y.toNat + 1 = Width.ofAmount y.toNat ∧
          HoldsUnsigned (Width.ofAmount y.toNat) n := by
  rw [represents.wellTyped_scalar_iff, represents.fits_scalar]
  by_cases below : y.toNat < 64
  · obtain ⟨width, unsigned, signs⟩ := Width.ofShift_of_lt word below
    rw [holds_iff width, HoldsAt, unsigned, signs]
    cases signed with
    | true =>
        simp only [if_true, decide_eq_true_iff]
        tauto
    | false =>
        simp only [Bool.false_eq_true, if_false, decide_eq_true_iff]
        tauto
  · obtain ⟨signs, unsigned⟩ := Width.isInteger_ofShift_of_ge (Nat.not_lt.1 below)
    rw [signs, unsigned, ite_self]
    exact ⟨fun typed => absurd typed.1 Bool.false_ne_true, fun typed => absurd typed.1 below⟩

end Constant

/-- A known integer is a known number, and represents a whole number. -/
theorem Value.IsInteger.represents {v : Value} {n : Int} (integer : v.IsInteger n) :
    ∃ c signed, v.IsNumber c ∧ c.Represents signed n := by
  obtain ⟨c, constant, fits, exact⟩ := integer.constant
  have numeric := Descriptor.isNumeric_of_isInteger integer.integer
  have whole : c.isFloat = false := by
    rw [Constant.isFloat_eq_of_fits fits, Descriptor.isFloat_of_isInteger integer.integer]
  obtain ⟨signed, m, represents⟩ :=
    Constant.exists_represents (Constant.fits_isNumeric numeric fits) whole
  have same : m = n :=
    Int.cast_inj.1 (Option.some.inj (represents.holdsWord.exact.symm.trans exact))
  exact ⟨c, signed, ⟨integer.known, constant, numeric, fits⟩, same ▸ represents⟩

namespace Solver

variable {left right : Value} {operator : Operator} {shifting : Int → Nat → Int} {a b : Int}

/-- A shift of known constants is typed by the amount, whatever is said about that. -/
theorem outcome_shiftRule {o : Operation} {l r c : Constant} {y : UInt64}
    (left : o.left.constant = some l) (right : o.right.constant = some r)
    (known : o.bothConst = true) (folded : Constant.fold o.op l r = .value c)
    (amount : r.asUInt64? = some y) :
    (shiftRule o).outcome = { type := .scalar .u64, constant := some c, width := .shift y } := by
  have bound : o.right.constant.bind Constant.asUInt64? = some y := by
    rw [right]
    exact amount
  unfold shiftRule
  rw [o.fold_of_value left right known folded, bound]
  split <;> rfl

/-- A shift of two known integers is known, and typed by the amount. -/
theorem solve_shifted (s : Solver) (shift : operator.op.shifting? = some shifting)
    (shifted : left.IsInteger a) (amount : right.IsInteger b) (e : Evaluation) {k : Nat}
    (bits : (UInt64.ofInt b).toNat = k) :
    let v := (s.solve left operator right e).1
    v.constant = some (.word (decide (a < 0)) (shifting a k)) ∧
      v.type = .scalar (Width.ofShift (UInt64.ofNat k)) := by
  intro v
  obtain ⟨l, signed, leftNumber, leftWhole⟩ := shifted.represents
  obtain ⟨r, signed', rightNumber, rightWhole⟩ := amount.represents
  have isShift : operator.op.isShift = true := BinaryOp.isShift_of_shifting? shift
  have logical : operator.op.isLogical = false := BinaryOp.isLogical_of_isShift isShift
  obtain ⟨numbers, ruled⟩ := ruling_of_numbers s leftNumber rightNumber logical
  obtain ⟨leftType, rightType⟩ := type_unwrapped left operator right
  let o := (operation left operator right).unwrapped
  have rule : s.settle o = s.integerRule o :=
    settle_integers s logical (leftType ▸ shifted.integer) (rightType ▸ amount.integer)
  have shiftRuled : s.integerRule o = shiftRule o :=
    integerRule_eq_shiftRule s numbers.leftNumeric numbers.rightNumeric isShift
  have folded := Constant.fold_shifting shift leftWhole rightWhole.isWord
  have outcome := outcome_shiftRule numbers.left numbers.right numbers.known folded
    rightWhole.isWord.asUInt64?_eq
  have picked : UInt64.ofNat k = UInt64.ofInt b := bits ▸ UInt64.ofNat_toNat
  have bare : (Descriptor.scalar .u64).isVoid = false :=
    Descriptor.isA_of_isNumeric (Descriptor.isNumeric_scalar .u64) rfl
  have value : v = finish (shiftRule o).outcome true operator.span := by
    simp only [v]
    rw [solve_value, ruled, rule, shiftRuled, shifted.known, amount.known]
    rfl
  rw [outcome, finish_true rfl bare, bits] at value
  rw [value, picked]
  exact ⟨rfl, rfl⟩

/-- **Which folded shifts are well typed.**  Let the known integers `a` and `b` be shifted,
and `k` be `b` reduced modulo `2 ^ 64`.  The result is known, with the shifted number `n` as
a signed word if `a` is negative and as an unsigned one otherwise; its type is the category
that `k` alone picks, and it is emitted as the constant of that type.

* The constant is of its type exactly if `k` is less than 64 and, of the least number of
  bits above `k`, either `a` is negative, `k` is not the last bit and `n` is a signed number
  of them, or `a` is not, `k` is the last bit and `n` is an unsigned number of them.
* If `k` is less than 64, the result is the word of `n` wherever it is solved further.
* Otherwise the result is of type `f32` if `k` is at most 127 and of type `f64` if not, and
  `n` is zero or -1. -/
theorem solve_shift (s : Solver) (shift : operator.op.shifting? = some shifting)
    (shifted : left.IsInteger a) (amount : right.IsInteger b) (e : Evaluation) :
    let v := (s.solve left operator right e).1
    let k := (b % 2 ^ 64).toNat
    let w := Width.ofAmount k
    let n := Constant.wrapped (decide (a < 0)) (shifting a k)
    ∃ c, v.constant = some c ∧ c.Represents (decide (a < 0)) n ∧ v.isConst = true ∧
      v.type = .scalar (Width.ofShift (UInt64.ofNat k)) ∧
      v.initializer = some (.ofConstant c v.type) ∧
      (c.WellTyped s.config.wordSize v.type ↔
        k < 64 ∧ if a < 0 then k + 1 ≠ w ∧ HoldsSigned w n else k + 1 = w ∧ HoldsUnsigned w n) ∧
      (k < 64 → v.Carries (UInt64.ofInt n)) ∧
      (64 ≤ k → v.type = .scalar (if k ≤ 127 then .f32 else .f64) ∧ v.IsWholeFloat n ∧
        (n = 0 ∨ n = -1)) := by
  intro v k w n
  obtain ⟨l, _, -, represented⟩ := shifted.represents
  have bits : (UInt64.ofInt b).toNat = k := Constant.toNat_ofInt b
  have same : (UInt64.ofNat k).toNat = k := by
    rw [← bits, UInt64.ofNat_toNat]
  obtain ⟨constant, type⟩ := solve_shifted s shift shifted amount e bits
  have told := told_solve s left right operator e
  have known : v.isConst = true := told.isConst.trans (congrArg Option.isSome constant)
  have represents := Constant.represents_word (decide (a < 0)) (shifting a k)
  refine ⟨_, constant, represents, known, type, ?_, ?_, fun below => ⟨known, ?_, _, constant, ?_⟩,
    fun large => ⟨?_, ⟨known, ?_, _, constant, represents.holdsWord⟩, ?_⟩⟩
  · rw [told.initializer, constant]
    rfl
  · rw [type, represents.wellTyped_ofShift_iff, same]
    simp only [decide_eq_true_iff]
    rfl
  · rw [type]
    have small : UInt64.ofNat k < 64 := UInt64.lt_iff_toNat_lt.2 (same.symm ▸ below)
    exact (Descriptor.isInteger_scalar _).trans (Width.isInteger_ofShift small)
  · exact represents.isWord
  · rw [type, Width.ofShift_of_ge (same.symm ▸ large), same]
  · rw [type, Descriptor.unwrap_scalar, Descriptor.isFloat_scalar]
    exact Width.isFloat_ofShift (same.symm ▸ large)
  · exact Constant.wrapped_shifting_of_le shift represented.holdsWord large

/-- -1 of 32 bits shifted by 3 is -8, which is a signed number of 8 bits. -/
theorem solve_shift_left_by_three :
    ∃ left right v : Value, left = .int .i32 (-1) ∧ right = .uint .u8 3 ∧
      left.IsInteger (-1) ∧ right.IsInteger 3 ∧
      BinaryOp.shifting? .shl = some (fun a k => a * 2 ^ k) ∧
      v = ((ofConfig .standard).solve left (.detached .shl) right .empty).1 ∧
      v.constant = some (.int (-8)) ∧ v.type = .scalar .i8 ∧
      (Constant.int (-8)).WellTyped .w64 v.type ∧ v.Carries (.ofInt (-8)) := by
  have shifted : (Value.int .i32 (-1)).IsInteger (-1) := Value.isInteger_int rfl _
  have amount : (Value.uint .u8 3).IsInteger 3 := Value.isInteger_uint rfl _
  have shift : (Operator.detached .shl).op.shifting? = some (fun a k => a * 2 ^ k) := rfl
  obtain ⟨c, constant, represents, -, type, -, typed, carries, -⟩ :=
    solve_shift (ofConfig .standard) shift shifted amount .empty
  have payload : c = .int (-8) := represents.eq_word.trans (by decide)
  rw [payload] at constant typed
  exact ⟨_, _, _, rfl, rfl, shifted, amount, shift, rfl, constant, type, typed.2 (by decide),
    carries (by decide)⟩

/-- The largest word shifted by zero bits is itself, of the category of zero bits, which neither
is of its signedness nor holds it. -/
theorem not_wellTyped_shift_right_by_zero :
    ∃ left right v : Value, left = .uint .u64 0xFFFFFFFFFFFFFFFF ∧ right = .uint .u8 0 ∧
      left.IsInteger (2 ^ 64 - 1) ∧ right.IsInteger 0 ∧
      v = ((ofConfig { wordSize := .w32, templates := .standard }).solve left (.detached .shr) right
        .empty).1 ∧
      v.constant = some (.uint 0xFFFFFFFFFFFFFFFF) ∧ v.type = .scalar .i8 ∧
      (Constant.uint 0xFFFFFFFFFFFFFFFF).fits v.type = false ∧
      ¬ v.type.category.Holds .w32 (2 ^ 64 - 1) := by
  have shifted : (Value.uint .u64 0xFFFFFFFFFFFFFFFF).IsInteger (2 ^ 64 - 1) :=
    Value.isInteger_uint rfl _
  have amount : (Value.uint .u8 0).IsInteger 0 := Value.isInteger_uint rfl _
  have shift : (Operator.detached .shr).op.shifting? = some (fun a k => a / 2 ^ k) := rfl
  have bits : (UInt64.ofInt 0).toNat = 0 := rfl
  obtain ⟨constant, type⟩ :=
    solve_shifted (ofConfig { wordSize := .w32, templates := .standard }) shift shifted amount
      .empty bits
  have represents : (Constant.uint 0xFFFFFFFFFFFFFFFF).Represents false (2 ^ 64 - 1) := .uint _
  have width : Category.i8.bitWidth? .w32 = some 8 := rfl
  refine ⟨_, _, _, rfl, rfl, shifted, amount, rfl, constant.trans (by decide), type, ?_, ?_⟩
  · rw [type, represents.fits_scalar]
    decide
  · rw [type]
    show ¬ Category.i8.Holds .w32 _
    rw [holds_iff width, HoldsAt]
    decide

end Solver

end BinarySolver
