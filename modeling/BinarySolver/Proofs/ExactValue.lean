/-
# BinarySolver.Proofs.ExactValue -- the number that a constant stands for

`Constant.rational?` is the exact value of a numeric constant, in whichever representation
it is.  What the library computes of a constant is measured against it: the whole number
that it holds (`toInt?_eq_some_iff`), the words into which it is forced (`isWord_ofInt`),
and whether the float that it is converted to is a zero (`beq_zero_iff_rational?`).
-/
import Mathlib.Algebra.Order.Field.Power
import Mathlib.Algebra.Order.Field.Rat
import Mathlib.Algebra.Order.Ring.Abs
import Mathlib.Data.Nat.Cast.Field
import Mathlib.Tactic.Positivity
import BinarySolver.Proofs.Rounding
import BinarySolver.Proofs.WordTree

namespace BinarySolver

set_option autoImplicit false

namespace Numeral.Binary

/-- The number that a float stands for, if it stands for one. -/
def rational? : Binary → Option ℚ
  | finite negative m q => some ((if negative then -1 else 1) * (m * 2 ^ q))
  | notANumber | infinite _ => none

end Numeral.Binary

namespace Constant

/-- The number that a constant stands for, if it stands for one. -/
def rational? : Constant → Option ℚ
  | float x => (Numeral.Binary.ofFloat x).rational?
  | int x => some x.toInt
  | uint x => some x.toNat
  | bool _ | str _ => none

end Constant

namespace Numeral.Binary

theorem mul_two_zpow (m : Nat) (q : Int) :
    (m * 2 ^ q : ℚ) = (m * 2 ^ q.toNat : Nat) / (2 ^ (-q).toNat : Nat) := by
  push_cast
  rcases le_total 0 q with up | down
  · obtain ⟨k, rfl⟩ := Int.eq_ofNat_of_zero_le up
    simp
  · obtain ⟨k, hk⟩ := Int.eq_ofNat_of_zero_le (Int.neg_nonneg.2 down)
    obtain rfl : q = -k := by omega
    simp [div_eq_mul_inv]

theorem wholePart_eq (m : Nat) (q : Int) (whole : isWhole m q = true) :
    (m * 2 ^ q : ℚ) = wholePart m q := by
  have positive : (2 ^ (-q).toNat : Nat) ≠ 0 := Nat.ne_of_gt (Nat.two_pow_pos _)
  have divides : 2 ^ (-q).toNat ∣ m * 2 ^ q.toNat := Nat.dvd_of_mod_eq_zero (beq_iff_eq.1 whole)
  rw [mul_two_zpow]
  exact (Nat.cast_div divides (Nat.cast_ne_zero.2 positive)).symm

theorem isWhole_of_eq {m : Nat} {q : Int} {n : Nat} (exact : (m * 2 ^ q : ℚ) = n) :
    isWhole m q = true := by
  have positive : ((2 ^ (-q).toNat : Nat) : ℚ) ≠ 0 :=
    Nat.cast_ne_zero.2 (Nat.ne_of_gt (Nat.two_pow_pos _))
  rw [mul_two_zpow, div_eq_iff positive, ← Nat.cast_mul, Nat.cast_inj] at exact
  exact beq_iff_eq.2 (Nat.mod_eq_zero_of_dvd ⟨n, exact.trans (Nat.mul_comm n _)⟩)

/-- A float holds a whole number if and only if its exact value is that number. -/
theorem toInt?_eq_some_iff (x : Binary) (n : Int) :
    x.toInt? = some n ↔ x.rational? = some (n : ℚ) := by
  cases x with
  | notANumber => exact ⟨nofun, nofun⟩
  | infinite => exact ⟨nofun, nofun⟩
  | finite negative m q =>
      have value : isWhole m q = true → (finite negative m q).rational? =
          some ((signed negative (wholePart m q) : Int) : ℚ) := by
        intro whole
        rw [rational?, wholePart_eq m q whole]
        cases negative <;> simp [signed]
      constructor
      · intro held
        rw [toInt?] at held
        split at held
        · cases held
          exact value ‹_›
        · cases held
      · intro exact
        have size : (m * 2 ^ q : ℚ) = n.natAbs := by
          have sign := Option.some.inj exact
          have above : (0 : ℚ) ≤ m * 2 ^ q := by positivity
          rw [Nat.cast_natAbs, Int.cast_abs, ← sign, abs_mul, abs_of_nonneg above]
          cases negative <;> simp
        have whole := isWhole_of_eq size
        rw [value whole, Option.some_inj, Int.cast_inj] at exact
        rw [toInt?, if_pos whole, exact]

theorem rational?_eq_zero_iff (negative : Bool) (m : Nat) (q : Int) :
    (finite negative m q).rational? = some 0 ↔ m = 0 := by
  have power : (2 ^ q : ℚ) ≠ 0 := by positivity
  rw [rational?, Option.some_inj]
  cases negative <;> simp [power]

end Numeral.Binary

namespace Constant

open Numeral

theorem rational?_uint (x : UInt64) : (uint x).rational? = some ((x.toNat : Int) : ℚ) :=
  congrArg some (Int.cast_natCast x.toNat).symm

/-- A constant holds a whole number if and only if its exact value is that number. -/
theorem toInt?_eq_some_iff (c : Constant) (n : Int) :
    c.toInt? = some n ↔ c.rational? = some (n : ℚ) := by
  cases c with
  | bool => exact ⟨nofun, nofun⟩
  | str => exact ⟨nofun, nofun⟩
  | float x => exact Binary.toInt?_eq_some_iff _ n
  | int x => rw [toInt?, rational?, Option.some_inj, Option.some_inj, Int.cast_inj]
  | uint x =>
      rw [toInt?, rational?_uint, Option.some_inj, Option.some_inj, Int.cast_inj]

/-! ## Zero -/

theorem beq_zero_iff (x : Float) :
    (x == Float.ofBits 0) = true ↔ (float x).rational? = some 0 := by
  rw [Numeral.beq_zero_iff, rational?, ofFloat_eq]
  cases x.toModel.unpack with
  | notANumber | infinity =>
      constructor
      · rintro ⟨sign, same⟩
        cases same
      · intro zero
        cases zero
  | zero sign => exact ⟨fun _ => (Binary.rational?_eq_zero_iff _ _ _).2 rfl, fun _ => ⟨sign, rfl⟩⟩
  | finite sign m e pos =>
      rw [Binary.ofUnpacked_finite, Binary.rational?_eq_zero_iff]
      constructor
      · rintro ⟨other, same⟩
        cases same
      · exact fun zero => absurd zero (Nat.ne_of_gt pos)

theorem exists_asFloat? {c : Constant} (number : c.isNumber = true) : ∃ x, c.asFloat? = some x := by
  cases c with
  | bool => cases number
  | str => cases number
  | _ => exact ⟨_, rfl⟩

/-- A number is converted to a float that is a zero if and only if it is zero. -/
theorem asFloat?_beq_zero_iff {c : Constant} {x : Float} (converted : c.asFloat? = some x) :
    (x == Float.ofBits 0) = true ↔ c.rational? = some 0 := by
  cases c with
  | bool => cases converted
  | str => cases converted
  | float x =>
      cases converted
      exact beq_zero_iff x
  | int n =>
      cases converted
      rw [ofInt_beq_zero_iff, rational?, Option.some_inj, Int.cast_eq_zero]
  | uint n =>
      cases converted
      rw [ofNat_beq_zero_iff, rational?, Option.some_inj, Nat.cast_eq_zero]

/-! ## Words -/

theorem toNat_ofInt (n : Int) : (UInt64.ofInt n).toNat = (n % 2 ^ 64).toNat := by
  unfold UInt64.ofInt
  rw [UInt64.toNat_ofNat_of_lt']
  have size : UInt64.size = 2 ^ 64 := rfl
  omega

theorem ofInt_toNat (x : UInt64) : UInt64.ofInt x.toNat = x := by
  have bounded := x.toNat_lt
  rw [← UInt64.toNat_inj, toNat_ofInt]
  omega

theorem toInt64_ofInt (n : Int) : (UInt64.ofInt n).toInt64 = Int64.ofInt n := by
  have size : Int64.size = 2 ^ 64 := rfl
  have word : ((n % 2 ^ 64).toNat : Int) = n % 2 ^ 64 := by omega
  rw [UInt64.ofInt, UInt64.toInt64_ofNat', ← Int64.ofInt_eq_ofNat, word]
  apply Int64.toInt_inj.1
  rw [Int64.toInt_ofInt, Int64.toInt_ofInt]
  exact Int.emod_bmod n (2 ^ 64)

theorem toUInt64_ofInt (n : Int) : (Int64.ofInt n).toUInt64 = UInt64.ofInt n := by
  rw [← toInt64_ofInt, UInt64.toUInt64_toInt64]

/-- An integer is the word to which its value wraps. -/
theorem isWord_of_rational? {c : Constant} {n : Int} (whole : c.isFloat = false)
    (exact : c.rational? = some (n : ℚ)) : c.IsWord (UInt64.ofInt n) := by
  cases c with
  | bool => cases exact
  | str => cases exact
  | float => cases whole
  | int x =>
      rw [rational?, Option.some_inj, Int.cast_inj] at exact
      rw [← exact, IsWord, toInt64_ofInt, Int64.ofInt_toInt]
      exact .inl rfl
  | uint x =>
      rw [rational?_uint, Option.some_inj, Int.cast_inj] at exact
      rw [← exact, ofInt_toNat]
      exact .inr rfl

end Constant

end BinarySolver
