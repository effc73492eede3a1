/-
# BinarySolver.Proofs.Rounding -- the float nearest to a whole number

A number other than zero that is no less than the least float is never rounded to zero:
what is left is a mantissa from 1 up to below `2 ^ 53` over an exponent that is not below
that of the least float, or an overflow to an infinity (`Sizable`).  Packing such a number
into bits and unpacking it keeps it sizable.  Hence **the float nearest to a whole number
is a zero only if the number is zero** (`ofInt_beq_zero_iff`), which is what a test for
zero after a conversion relies on.

The bits of a float are read here as the library reads them (`ofFloat_eq`).
-/
import Mathlib.Algebra.Group.Nat.Defs
import BinarySolver.Numeral.Binary

namespace BinarySolver.Numeral

set_option autoImplicit false

open Float.Model Float.Model.UnpackedFloat

/-! ## Shifting and rounding mantissas -/

theorem mantissa_shiftRight (em : ExtendedMantissa) (n : Nat) :
    (em >>> n).mantissa = em.mantissa / 2 ^ n := by
  show (n.repeat ExtendedMantissa.shiftRightOne em).mantissa = _
  induction n with
  | zero => simp [Nat.repeat]
  | succ n ih =>
      rw [Nat.repeat, ExtendedMantissa.shiftRightOne, ih, Nat.div_div_eq_div_mul, Nat.pow_succ]

/-- Rounding keeps a mantissa or takes the next one. -/
theorem roundedMantissa_cases (em : ExtendedMantissa) :
    em.roundedMantissa = em.mantissa ∨ em.roundedMantissa = em.mantissa + 1 := by
  obtain ⟨m, roundBit, stickyBit⟩ := em
  have parity := Nat.mod_two_eq_zero_or_one m
  cases roundBit <;> cases stickyBit <;>
    simp [ExtendedMantissa.roundedMantissa, ExtendedMantissa.accuracy,
      Accuracy.roundToNearestEven, parity]

/-- What rounding to 64 bits can give for a number that is not zero. -/
def Sizable : UnpackedFloat → Prop
  | .finite _ m e _ => m < 2 ^ 53 ∧ -1074 ≤ e
  | .infinity _ => True
  | .zero _ | .notANumber => False

theorem targetExponent_binary64 (m : Nat) (e : Int) :
    Format.binary64.targetExponent (totalExponent m e) = max (m.log2 + e - 52) (-1074) := by
  have bits : ((Format.mantissaBits .binary64 : Nat) : Int) = 53 := rfl
  have least : Format.minExponent .binary64 = -1074 := rfl
  rw [Format.targetExponent, totalExponent, bits, least]
  congr 1
  omega

/-- Shifting keeps the leading bit, and no more than 52 bits behind it. -/
theorem div_two_pow_bounds {m k : Nat} (pos : 0 < m) (kept : k ≤ m.log2)
    (enough : m.log2 ≤ 52 + k) : 0 < m / 2 ^ k ∧ m / 2 ^ k < 2 ^ 53 := by
  constructor
  · apply Nat.div_pos _ (Nat.two_pow_pos k)
    calc 2 ^ k ≤ 2 ^ m.log2 := Nat.pow_le_pow_right (by decide) kept
      _ ≤ m := Nat.log2_self_le (Nat.ne_of_gt pos)
  · rw [Nat.div_lt_iff_lt_mul (Nat.two_pow_pos k), ← Nat.pow_add]
    calc m < 2 ^ (m.log2 + 1) := Nat.lt_log2_self
      _ ≤ 2 ^ (53 + k) := Nat.pow_le_pow_right (by decide) (by omega)

/-- A number no less than the least float has a mantissa of 53 bits at most, and not zero,
over its exponent. -/
theorem shiftToTargetExponent_bounds {m : Nat} {e : Int} (accuracy : Accuracy) (pos : 0 < m)
    (size : -1074 ≤ m.log2 + e) :
    let shifted := shiftToTargetExponent .binary64 m e accuracy
    0 < shifted.1.mantissa ∧ shifted.1.mantissa < 2 ^ 53 ∧ -1074 ≤ shifted.2 := by
  have mantissa : (ExtendedMantissa.ofMantissaAndAccuracy m accuracy).mantissa = m := by
    cases accuracy with
    | exact => rfl
    | inexact order => cases order <;> rfl
  simp only [shiftToTargetExponent, shiftToExponent, targetExponent_binary64,
    mantissa_shiftRight, mantissa]
  generalize shift : (max ((m.log2 : Int) + e - 52) (-1074) - e).toNat = k
  obtain ⟨positive, small⟩ := div_two_pow_bounds pos (k := k) (by omega) (by omega)
  exact ⟨positive, small, by omega⟩

theorem sizable_roundWithAccuracy {m : Nat} {e : Int} (sign : Sign) (accuracy : Accuracy)
    (pos : 0 < m) (size : -1074 ≤ m.log2 + e) :
    Sizable (roundWithAccuracy .binary64 sign m e accuracy) := by
  obtain ⟨positive, -, least⟩ := shiftToTargetExponent_bounds accuracy pos size
  unfold roundWithAccuracy
  dsimp only
  generalize shiftToTargetExponent .binary64 m e accuracy = shifted at positive least ⊢
  have rounded : 0 < shifted.1.roundedMantissa := by
    rcases roundedMantissa_cases shifted.1 with same | next <;> omega
  -- rounding up can overflow the mantissa, which is shifted again
  obtain ⟨positive, small, least⟩ := shiftToTargetExponent_bounds .exact rounded
    (e := shifted.2) (by omega)
  rw [dif_neg (Nat.ne_of_gt positive)]
  exact ⟨small, least⟩

theorem add_le_log2_mul_two_pow {m : Nat} (pos : 0 < m) (k : Nat) :
    m.log2 + k ≤ (m * 2 ^ k).log2 := by
  have scaled : m * 2 ^ k ≠ 0 := Nat.ne_of_gt (Nat.mul_pos pos (Nat.two_pow_pos k))
  rw [Nat.le_log2 scaled, Nat.pow_add]
  exact Nat.mul_le_mul_right _ (Nat.log2_self_le (Nat.ne_of_gt pos))

theorem sizable_round {n : Nat} (sign : Sign) (pos : 0 < n) :
    Sizable (UnpackedFloat.round .binary64 sign n 0) := by
  unfold UnpackedFloat.round decreaseExponent
  simp only [Nat.shiftLeft_eq]
  generalize (0 - Format.binary64.targetExponent (totalExponent n 0)).toNat = k
  have leading := add_le_log2_mul_two_pow pos k
  exact sizable_roundWithAccuracy sign _ (Nat.mul_pos pos (Nat.two_pow_pos k)) (by omega)

/-! ## Bits -/

theorem toNat_one_append (m : BitVec 52) : (1#1 ++ m).toNat = 2 ^ 52 + m.toNat := by
  rw [BitVec.toNat_append, ← Nat.shiftLeft_add_eq_or_of_lt m.isLt]
  rfl

/-- Bits that are those of neither a zero nor no number at all are those of a sizable number. -/
theorem sizable_unpack {bits : BitVec 64}
    (number : @unpackExponent .binary64 bits = -1#11 →
      @unpackMantissa .binary64 bits = 0#52)
    (other : @unpackExponent .binary64 bits = 0#11 →
      @unpackMantissa .binary64 bits ≠ 0#52) :
    Sizable (UnpackedFloat.unpack .binary64 bits) := by
  have bias : (Format.binary64.exponentBias : Int) = 1023 := rfl
  have small : (@unpackMantissa .binary64 bits).toNat < 2 ^ 52 := BitVec.isLt _
  unfold UnpackedFloat.unpack
  dsimp only
  by_cases top : @unpackExponent .binary64 bits = -1#11
  · rw [if_pos top, if_pos (number top)]
    trivial
  rw [if_neg top]
  by_cases bottom : @unpackExponent .binary64 bits = 0#11
  · have zero : (@unpackExponent .binary64 bits).toNat = 0 := by rw [bottom]; rfl
    rw [if_pos bottom, dif_neg (other bottom)]
    exact ⟨by omega, by omega⟩
  · rw [if_neg bottom]
    have positive : (@unpackExponent .binary64 bits).toNat ≠ 0 :=
      fun zero => bottom (BitVec.eq_of_toNat_eq zero)
    have whole := toNat_one_append (@unpackMantissa .binary64 bits)
    exact ⟨by omega, by omega⟩

theorem sizable_unpack_packComponents {sign : Sign} {exponent : BitVec 11} {mantissa : BitVec 52}
    (number : exponent = -1#11 → mantissa = 0#52) (other : exponent = 0#11 → mantissa ≠ 0#52) :
    Sizable (UnpackedFloat.unpack .binary64 (packComponents .binary64 sign exponent mantissa)) := by
  apply sizable_unpack
  · rwa [unpackExponent_packComponents, unpackMantissa_packComponents]
  · rwa [unpackExponent_packComponents, unpackMantissa_packComponents]

/-- A sizable number is sizable still when it has been packed into bits. -/
theorem sizable_unpack_pack {x : UnpackedFloat} (sizable : Sizable x) :
    Sizable (UnpackedFloat.unpack .binary64 (UnpackedFloat.pack .binary64 x)) := by
  have bias : (Format.binary64.exponentBias : Int) = 1023 := rfl
  have infinite : ∀ sign,
      Sizable (UnpackedFloat.unpack .binary64 (packedInfinity .binary64 sign)) := by
    intro sign
    exact sizable_unpack_packComponents (fun _ => rfl) nofun
  cases x with
  | notANumber => cases sizable
  | zero => cases sizable
  | infinity sign => exact infinite sign
  | finite sign m e pos =>
      obtain ⟨small, least⟩ := sizable
      unfold UnpackedFloat.pack
      simp only [bias]
      split
      · exact infinite sign
      split
      · -- the biased exponent is neither of the two that stand for something else
        rename_i fits _
        have biased : (e + 1023 + (52 : Nat)).toNat + 1 < 2 ^ 11 := Nat.lt_of_not_le fits
        have kept : (BitVec.ofNat 11 (e + 1023 + (52 : Nat)).toNat).toNat =
            (e + 1023 + (52 : Nat)).toNat := Nat.mod_eq_of_lt (by omega)
        apply sizable_unpack_packComponents
        · intro top
          have same := kept.symm.trans (congrArg BitVec.toNat top)
          have last : (-1#11).toNat = 2 ^ 11 - 1 := rfl
          omega
        · intro bottom
          have same := kept.symm.trans (congrArg BitVec.toNat bottom)
          have first : (0#11).toNat = 0 := rfl
          omega
      · rename_i subnormal
        have leading : m.log2 < 52 := by
          have bounded := (Nat.log2_lt (Nat.ne_of_gt pos)).2 small
          have bits : Format.mantissaBits .binary64 = 53 := rfl
          omega
        have below : m < 2 ^ 52 := (Nat.log2_lt (Nat.ne_of_gt pos)).1 leading
        have kept : (BitVec.ofNat 52 m).toNat = m := Nat.mod_eq_of_lt below
        refine sizable_unpack_packComponents (fun top => absurd top (by decide)) fun _ zero => ?_
        have same := kept.symm.trans (congrArg BitVec.toNat zero)
        exact Nat.ne_of_gt pos same

theorem sizable_unpack_model {x : UnpackedFloat} (sizable : Sizable x) :
    Sizable (Float.Model.pack x).unpack :=
  sizable_unpack_pack sizable

/-! ## Conversion -/

theorem mul_finite (s s' : Sign) (m m' : Nat) (e e' : Int) (pos : 0 < m) (pos' : 0 < m') :
    UnpackedFloat.mul .binary64 (.finite s m e pos) (.finite s' m' e' pos') =
      roundWithAccuracy .binary64 (s * s') (m * m') (e + e') .exact :=
  rfl

/-- The library multiplies by one when it converts a number. -/
theorem unpack_one : (Float.ofBits 0x3FF0000000000000).toModel.unpack =
    .finite .positive (2 ^ 52) (-52) (by decide) := by
  rfl

theorem sizable_mul_one {x : Float} (sizable : Sizable x.toModel.unpack) :
    Sizable (x * Float.ofBits 0x3FF0000000000000).toModel.unpack := by
  show Sizable (Float.Model.pack (UnpackedFloat.mul .binary64 x.toModel.unpack
    (Float.ofBits 0x3FF0000000000000).toModel.unpack)).unpack
  rw [unpack_one]
  apply sizable_unpack_model
  generalize x.toModel.unpack = u at sizable ⊢
  cases u with
  | notANumber => cases sizable
  | zero => cases sizable
  | infinity => trivial
  | finite sign m e pos =>
      have leading := add_le_log2_mul_two_pow pos 52
      have least := sizable.2
      exact sizable_roundWithAccuracy _ _ (Nat.mul_pos pos (by decide)) (by omega)

theorem sizable_toFloat {n : UInt64} (pos : 0 < n.toNat) : Sizable n.toFloat.toModel.unpack := by
  show Sizable (Float.Model.pack (UnpackedFloat.normalize .binary64 n.toNat 0 .positive)).unpack
  apply sizable_unpack_model
  unfold UnpackedFloat.normalize
  rw [Int.compare_eq_gt.2 (by omega)]
  exact sizable_round _ pos

theorem sizable_ofNat {n : Nat} (pos : 0 < n) : Sizable (Float.ofNat n).toModel.unpack := by
  show Sizable (Float.ofScientific n false 0).toModel.unpack
  unfold Float.ofScientific
  split
  · rename_i small
    have word : n.toUInt64.toNat = n := UInt64.toNat_ofNat_of_lt' (by
      have size : UInt64.size = 2 ^ 64 := rfl
      omega)
    exact sizable_mul_one (sizable_toFloat (by rw [word]; exact pos))
  · have range : (2 ^ Format.binary64.exponentBits : Int) = 2048 := rfl
    have bits : Format.mantissaBits .binary64 = 53 := rfl
    have leading := add_le_log2_mul_two_pow pos 53
    show Sizable (Float.Model.ofScientific n 0).unpack
    apply sizable_unpack_model
    unfold UnpackedFloat.ofScientific
    rw [dif_neg (Nat.ne_of_gt pos), if_neg (by omega), if_neg (by omega), if_pos (by omega)]
    rw [mul_finite, bits, Nat.shiftLeft_eq, Int.toNat_zero, Nat.pow_zero, Nat.mul_one]
    exact sizable_roundWithAccuracy _ _ (Nat.mul_pos pos (by decide)) (by omega)

theorem sizable_neg {x : Float} (sizable : Sizable x.toModel.unpack) :
    Sizable x.neg.toModel.unpack := by
  show Sizable (Float.Model.pack x.toModel.unpack.neg).unpack
  apply sizable_unpack_model
  generalize x.toModel.unpack = u at sizable ⊢
  cases u <;> exact sizable

theorem sizable_ofInt {n : Int} (other : n ≠ 0) : Sizable (Float.ofInt n).toModel.unpack := by
  cases n with
  | ofNat n => exact sizable_ofNat (Nat.pos_of_ne_zero fun zero => other (congrArg Int.ofNat zero))
  | negSucc n => exact sizable_neg (sizable_ofNat (Nat.succ_pos n))

/-! ## Zero -/

theorem beq_zero_iff (x : Float) :
    (x == Float.ofBits 0) = true ↔ ∃ sign, x.toModel.unpack = .zero sign := by
  show (x.toModel.unpack.compare (.zero .positive) == some .eq) = true ↔ _
  cases x.toModel.unpack with
  | notANumber => exact ⟨nofun, nofun⟩
  | infinity sign => cases sign <;> exact ⟨nofun, nofun⟩
  | zero sign => exact ⟨fun _ => ⟨sign, rfl⟩, fun _ => rfl⟩
  | finite sign => cases sign <;> exact ⟨nofun, nofun⟩

theorem beq_zero_of_sizable {x : Float} (sizable : Sizable x.toModel.unpack) :
    (x == Float.ofBits 0) = false := by
  refine Bool.eq_false_iff.2 fun zero => ?_
  obtain ⟨sign, same⟩ := (beq_zero_iff x).1 zero
  rw [same] at sizable
  exact sizable

/-- **The float nearest to a whole number is a zero only if the number is zero.** -/
theorem ofInt_beq_zero_iff (n : Int) : (Float.ofInt n == Float.ofBits 0) = true ↔ n = 0 := by
  constructor
  · intro zero
    refine Classical.byContradiction fun other => ?_
    rw [beq_zero_of_sizable (sizable_ofInt other)] at zero
    cases zero
  · rintro rfl
    exact (beq_zero_iff _).2 ⟨.positive, by rfl⟩

theorem ofNat_beq_zero_iff (n : Nat) : (Float.ofNat n == Float.ofBits 0) = true ↔ n = 0 := by
  rw [← Int.natCast_eq_zero]
  exact ofInt_beq_zero_iff n

/-! ## Reading bits -/

/-- The number that the library takes a float for. -/
def Binary.ofUnpacked : UnpackedFloat → Binary
  | .notANumber => .notANumber
  | .infinity sign => .infinite (sign == .negative)
  | .zero sign => .finite (sign == .negative) 0 (-1074)
  | .finite sign m e _ => .finite (sign == .negative) m e

theorem Binary.ofUnpacked_finite (sign : Sign) (m : Nat) (e : Int) (pos : 0 < m) :
    ofUnpacked (.finite sign m e pos) = .finite (sign == .negative) m e := rfl

section Fields

variable (bits : BitVec 64)

theorem toNat_unpackMantissa :
    (@unpackMantissa .binary64 bits).toNat = bits.toNat % 0x10000000000000 := by
  simp [unpackMantissa]

theorem toNat_unpackExponent :
    (@unpackExponent .binary64 bits).toNat = bits.toNat / 0x10000000000000 % 0x800 := by
  simp [unpackExponent, Nat.shiftRight_eq_div_pow]

theorem ofBitVec_unpackSign :
    (Sign.ofBitVec (@unpackSign .binary64 bits) == .negative) =
      decide (0x8000000000000000 ≤ bits.toNat) := by
  have bounded := bits.isLt
  have sign : (@unpackSign .binary64 bits).toNat = bits.toNat / 0x8000000000000000 := by
    show (BitVec.extractLsb 63 63 bits).toNat = _
    rw [BitVec.extractLsb_toNat, Nat.shiftRight_eq_div_pow]
    omega
  unfold Sign.ofBitVec
  split
  · rename_i positive
    have low : bits.toNat / 0x8000000000000000 = 0 := by rw [← sign, positive]; rfl
    symm
    show decide _ = false
    rw [decide_eq_false_iff_not]
    omega
  · rename_i negative
    have high : bits.toNat / 0x8000000000000000 ≠ 0 := by
      rw [← sign]
      exact fun zero => negative (BitVec.eq_of_toNat_eq zero)
    symm
    show decide _ = true
    rw [decide_eq_true_iff]
    omega

end Fields

/-- **The bits of a float are read as the library reads them.** -/
theorem ofFloat_eq (x : Float) : Binary.ofFloat x = .ofUnpacked x.toModel.unpack := by
  have bias : (Format.binary64.exponentBias : Int) = 1023 := rfl
  have top : ∀ e : BitVec 11, e = -1#11 ↔ e.toNat = 2047 := fun e => BitVec.toNat_inj.symm
  have bottom : ∀ e : BitVec 11, e = 0#11 ↔ e.toNat = 0 := fun e => BitVec.toNat_inj.symm
  have empty : ∀ m : BitVec 52, m = 0#52 ↔ m.toNat = 0 := fun m => BitVec.toNat_inj.symm
  have word : x.toBits.toNat = x.toModel.toBits.toBitVec.toNat := rfl
  show _ = Binary.ofUnpacked (UnpackedFloat.unpack .binary64 x.toModel.toBits.toBitVec)
  unfold UnpackedFloat.unpack Binary.ofFloat
  dsimp only
  rw [word]
  generalize x.toModel.toBits.toBitVec = bits
  have mantissa := toNat_unpackMantissa bits
  have exponent := toNat_unpackExponent bits
  have sign := ofBitVec_unpackSign bits
  have implicit := toNat_one_append (@unpackMantissa .binary64 bits)
  by_cases last : @unpackExponent .binary64 bits = -1#11
  · rw [if_pos last, if_pos (exponent.symm.trans ((top _).1 last))]
    by_cases bare : @unpackMantissa .binary64 bits = 0#52
    · rw [if_pos bare, if_pos (mantissa.symm.trans ((empty _).1 bare))]
      exact congrArg Binary.infinite sign.symm
    · rw [if_neg bare, if_neg fun zero => bare ((empty _).2 (mantissa.trans zero))]
      rfl
  rw [if_neg last, if_neg fun same => last ((top _).2 (exponent.trans same))]
  by_cases least : @unpackExponent .binary64 bits = 0#11
  · rw [if_pos least, if_pos (exponent.symm.trans ((bottom _).1 least))]
    by_cases bare : @unpackMantissa .binary64 bits = 0#52
    · have zero := mantissa.symm.trans ((empty _).1 bare)
      rw [dif_pos bare, zero]
      exact congrArg (Binary.finite · 0 (-1074)) sign.symm
    · rw [dif_neg bare, Binary.ofUnpacked_finite, sign, least, mantissa, bias]
      rfl
  · rw [if_neg least, if_neg fun zero => least ((bottom _).2 (exponent.trans zero)),
      Binary.ofUnpacked_finite, sign, implicit, mantissa, exponent, bias]
    rfl

end BinarySolver.Numeral
