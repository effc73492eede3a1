/-
# BinarySolver.Proofs.Range -- which whole numbers an integer category holds

An integer category of `w` bits holds the numbers of `w` bits of its signedness.  The
narrowest category of a word (`Width.minimalSigned`, `Width.minimalUnsigned`) holds
the word, and no narrower category of the same signedness does.
-/
import Mathlib.Algebra.Group.Int.Defs
import BinarySolver.Width

namespace BinarySolver

set_option autoImplicit false

namespace Category

variable {word : WordSize} {c d : Category} {n : Int} {w : Nat}

/-- `n` is a signed number of `w` bits. -/
def HoldsSigned (w : Nat) (n : Int) : Prop := -2 ^ (w - 1) ≤ n ∧ n < 2 ^ (w - 1)

/-- `n` is an unsigned number of `w` bits. -/
def HoldsUnsigned (w : Nat) (n : Int) : Prop := 0 ≤ n ∧ n < 2 ^ w

instance : Decidable (HoldsSigned w n) := inferInstanceAs (Decidable (_ ∧ _))

instance : Decidable (HoldsUnsigned w n) := inferInstanceAs (Decidable (_ ∧ _))

/-- `n` is a number of `w` bits of the signedness of the category. -/
def HoldsAt (c : Category) (w : Nat) (n : Int) : Prop :=
  (c.isSignedInteger = true ∧ HoldsSigned w n) ∨ (c.isUnsignedInteger = true ∧ HoldsUnsigned w n)

/-- The whole numbers that an integer category holds. -/
def Holds (word : WordSize) (c : Category) (n : Int) : Prop :=
  ∃ w, c.bitWidth? word = some w ∧ c.HoldsAt w n

/-- The bits of a category say which numbers it holds. -/
theorem holds_iff (width : c.bitWidth? word = some w) : c.Holds word n ↔ c.HoldsAt w n := by
  refine ⟨fun ⟨m, other, holds⟩ => ?_, fun holds => ⟨w, width, holds⟩⟩
  rw [width] at other
  cases other
  exact holds

/-- No category of the same signedness that has fewer bits holds `n`. -/
def Narrowest (word : WordSize) (c : Category) (n : Int) : Prop :=
  ∀ d : Category, d.isSignedInteger = c.isSignedInteger →
    d.isUnsignedInteger = c.isUnsignedInteger →
    ∀ w m, c.bitWidth? word = some w → d.bitWidth? word = some m → m < w → ¬ d.Holds word n

theorem isUnsignedInteger_of_isSignedInteger (signed : c.isSignedInteger = true) :
    c.isUnsignedInteger = false := by
  cases c <;> first | rfl | cases signed

theorem isSignedInteger_of_isUnsignedInteger (unsigned : c.isUnsignedInteger = true) :
    c.isSignedInteger = false := by
  cases c <;> first | rfl | cases unsigned

/-- Every integer category has one of four widths. -/
theorem bitWidth?_of_isInteger (word : WordSize) (whole : c.isInteger = true) :
    ∃ w, c.bitWidth? word = some w ∧ (w = 8 ∨ w = 16 ∨ w = 32 ∨ w = 64) := by
  cases word <;> cases c <;> first | exact ⟨_, rfl, by decide⟩ | cases whole

/-- Zero is held by every integer category. -/
theorem holds_zero (word : WordSize) (whole : c.isInteger = true) : c.Holds word 0 := by
  obtain ⟨w, width, widths⟩ := bitWidth?_of_isInteger word whole
  refine ⟨w, width, ?_⟩
  rcases Bool.or_eq_true_iff.1 whole with signed | unsigned
  · refine .inl ⟨signed, ?_⟩
    unfold HoldsSigned
    rcases widths with rfl | rfl | rfl | rfl <;> decide
  · refine .inr ⟨unsigned, ?_⟩
    unfold HoldsUnsigned
    rcases widths with rfl | rfl | rfl | rfl <;> decide

/-- A category is narrowest for `n` if its own number of bits is the least of the four
in which `n` can be held. -/
theorem narrowest_of_least (whole : c.isInteger = true) (width : c.bitWidth? word = some w)
    (least : ∀ m, (m = 8 ∨ m = 16 ∨ m = 32 ∨ m = 64) → c.HoldsAt m n → w ≤ m) :
    c.Narrowest word n := by
  rintro d signed unsigned w' m width' narrower lt holds
  have same : d.isInteger = true := by rwa [isInteger, signed, unsigned]
  obtain ⟨m', other, widths⟩ := bitWidth?_of_isInteger word same
  rw [width] at width'
  rw [narrower] at other
  cases width'
  cases other
  rw [holds_iff narrower, HoldsAt, signed, unsigned] at holds
  exact absurd (least m widths holds) (Nat.not_le.2 lt)

end Category

namespace Width

open Category

/-! ## Signed words -/

theorem holdsSigned_ofSigned (x : Int64) : HoldsSigned (ofSigned x) x.toInt := by
  have low := x.le_toInt
  have high := x.toInt_lt
  unfold ofSigned HoldsSigned
  split
  · omega
  split
  · omega
  split
  · omega
  · omega

theorem ofSigned_le {x : Int64} {m : Nat} (width : m = 8 ∨ m = 16 ∨ m = 32 ∨ m = 64)
    (holds : HoldsSigned m x.toInt) : ofSigned x ≤ m := by
  unfold ofSigned
  rcases width with rfl | rfl | rfl | rfl <;> simp only [HoldsSigned] at holds <;> repeat' split
  all_goals omega

theorem isSignedInteger_minimalSigned (x : Int64) : (minimalSigned x).isSignedInteger = true := by
  unfold minimalSigned
  split <;> rfl

theorem bitWidth?_minimalSigned (word : WordSize) (x : Int64) :
    (minimalSigned x).bitWidth? word = some (ofSigned x) := by
  have widths : ofSigned x = 8 ∨ ofSigned x = 16 ∨ ofSigned x = 32 ∨ ofSigned x = 64 := by
    unfold ofSigned
    repeat' split
    all_goals simp
  unfold minimalSigned
  rcases widths with width | width | width | width <;> rw [width] <;> cases word <;> rfl

theorem holds_minimalSigned (word : WordSize) (x : Int64) :
    (minimalSigned x).Holds word x.toInt :=
  ⟨_, bitWidth?_minimalSigned word x,
    .inl ⟨isSignedInteger_minimalSigned x, holdsSigned_ofSigned x⟩⟩

theorem narrowest_minimalSigned (word : WordSize) (x : Int64) :
    (minimalSigned x).Narrowest word x.toInt := by
  have signed := isSignedInteger_minimalSigned x
  refine narrowest_of_least (by rw [isInteger, signed]; rfl) (bitWidth?_minimalSigned word x) ?_
  rintro m width (⟨-, holds⟩ | ⟨unsigned, -⟩)
  · exact ofSigned_le width holds
  · rw [isUnsignedInteger_of_isSignedInteger signed] at unsigned
    cases unsigned

/-! ## Unsigned words -/

theorem holdsUnsigned_ofUnsigned (x : UInt64) : HoldsUnsigned (ofUnsigned x) x.toNat := by
  have high := x.toNat_lt
  unfold ofUnsigned HoldsUnsigned
  split
  · omega
  split
  · omega
  split
  · omega
  · omega

theorem ofUnsigned_le {x : UInt64} {m : Nat} (width : m = 8 ∨ m = 16 ∨ m = 32 ∨ m = 64)
    (holds : HoldsUnsigned m x.toNat) : ofUnsigned x ≤ m := by
  unfold ofUnsigned
  rcases width with rfl | rfl | rfl | rfl <;> simp only [HoldsUnsigned] at holds <;> repeat' split
  all_goals omega

theorem isUnsignedInteger_minimalUnsigned (x : UInt64) :
    (minimalUnsigned x).isUnsignedInteger = true := by
  unfold minimalUnsigned
  split <;> rfl

theorem bitWidth?_minimalUnsigned (word : WordSize) (x : UInt64) :
    (minimalUnsigned x).bitWidth? word = some (ofUnsigned x) := by
  have widths : ofUnsigned x = 8 ∨ ofUnsigned x = 16 ∨ ofUnsigned x = 32 ∨ ofUnsigned x = 64 := by
    unfold ofUnsigned
    repeat' split
    all_goals simp
  unfold minimalUnsigned
  rcases widths with width | width | width | width <;> rw [width] <;> cases word <;> rfl

theorem holds_minimalUnsigned (word : WordSize) (x : UInt64) :
    (minimalUnsigned x).Holds word x.toNat :=
  ⟨_, bitWidth?_minimalUnsigned word x,
    .inr ⟨isUnsignedInteger_minimalUnsigned x, holdsUnsigned_ofUnsigned x⟩⟩

theorem narrowest_minimalUnsigned (word : WordSize) (x : UInt64) :
    (minimalUnsigned x).Narrowest word x.toNat := by
  have unsigned := isUnsignedInteger_minimalUnsigned x
  refine narrowest_of_least (by rw [isInteger, unsigned, Bool.or_true])
    (bitWidth?_minimalUnsigned word x) ?_
  rintro m width (⟨signed, -⟩ | ⟨-, holds⟩)
  · rw [isSignedInteger_of_isUnsignedInteger unsigned] at signed
    cases signed
  · exact ofUnsigned_le width holds

theorem isFloat_minimalFloat (x : Float) : (minimalFloat x).isFloat = true := by
  unfold minimalFloat
  split <;> rfl

end Width

end BinarySolver
