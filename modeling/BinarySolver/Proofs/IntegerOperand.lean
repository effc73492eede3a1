/-
# BinarySolver.Proofs.IntegerOperand -- operands that give an integer type a number

    operand := type '=' numeral

Whatever its width, an integer category reads its numbers as words of 64 bits: a value is
accepted if it is a numeral of a word of the signedness of the category, and is then
exactly that word (`read_integer`).  So only the categories of 64 bits are sure to hold
what an operand gives them; each narrower one takes numbers that it does not hold, as
`read_i8_300` shows.
-/
import BinarySolver.Proofs.Assignment
import BinarySolver.Proofs.IntegerFolding
import BinarySolver.Proofs.NumeralReading

namespace BinarySolver

set_option autoImplicit false

open Numeral

namespace Constant

variable {k : Constant} {signed : Bool} {n : Int} {cs : List Char}

/-- The numbers that are represented are the words. -/
theorem exists_represents_iff : (∃ k, Represents k signed n) ↔ Ranges signed n := by
  constructor
  · rintro ⟨k, represents⟩
    exact represents.ranges
  · intro ranges
    have word := represents_word signed n
    rw [wrapped_of_ranges ranges] at word
    exact ⟨_, word⟩

/-- The constant that a text is for an integer of a signedness. -/
def readInteger? (signed : Bool) (cs : List Char) : Option Constant :=
  if signed then (readInt64? cs).map int else (readUInt64? cs).map uint

theorem readInteger?_eq_some_iff :
    readInteger? signed cs = some k ↔ ∃ n, k.Represents signed n ∧ Writes signed cs n := by
  cases signed with
  | true =>
      rw [readInteger?, if_pos rfl, Option.map_eq_some_iff]
      constructor
      · rintro ⟨x, reads, rfl⟩
        exact ⟨_, .int x, readInt64?_eq_some_iff.1 reads⟩
      · rintro ⟨n, represents, written⟩
        cases represents with
        | int x => exact ⟨x, readInt64?_eq_some_iff.2 written, rfl⟩
  | false =>
      rw [readInteger?, if_neg (by decide), Option.map_eq_some_iff]
      constructor
      · rintro ⟨x, reads, rfl⟩
        exact ⟨_, .uint x, readUInt64?_eq_some_iff.1 reads⟩
      · rintro ⟨n, represents, written⟩
        cases represents with
        | uint x => exact ⟨x, readUInt64?_eq_some_iff.2 written, rfl⟩

theorem readInteger?_eq_none_iff :
    readInteger? signed cs = none ↔ ∀ n, Writes signed cs n → ¬ Ranges signed n := by
  rw [Option.eq_none_iff_forall_ne_some]
  constructor
  · intro none n written ranges
    obtain ⟨k, represents⟩ := exists_represents_iff.2 ranges
    exact none k (readInteger?_eq_some_iff.2 ⟨n, represents, written⟩)
  · intro outside k reads
    obtain ⟨n, represents, written⟩ := readInteger?_eq_some_iff.1 reads
    exact outside n written represents.ranges

end Constant

namespace Operand

variable {c : Category} {before : List Char}

/-- All integer categories of a signedness share their reader. -/
theorem readConstant_integer (integer : c.isInteger = true) (text : List Char) :
    readConstant (.scalar c) text =
      match Constant.readInteger? c.isSignedInteger text with
      | some k => .ok k
      | none => .error (.invalidValue c.name (String.ofList text)) := by
  unfold readConstant
  rw [Descriptor.isPlain_scalar]
  cases c <;> first | rfl | cases integer

/-- The only types that are read and are integers are the integer categories. -/
theorem exists_scalar_of_read {type : Descriptor} (reads : TypeExpr.read before = .ok type)
    (integer : type.isInteger = true) :
    ∃ c : Category, c.isInteger = true ∧ type = .scalar c := by
  obtain ⟨t, -, rfl⟩ := TypeExpr.exists_derives_of_read before type reads
  obtain ⟨plain, category⟩ := Descriptor.isInteger_iff.1 integer
  obtain ⟨n, gives⟩ := TypeTree.exists_gives_of_isPlain plain
  generalize t.descriptor = type at category gives
  cases gives with
  | scalar c => exact ⟨c, category, rfl⟩
  | function | struct => cases category

section Scalar

variable (first : '=' ∉ before) (reads : TypeExpr.read before = .ok (.scalar c))
  (integer : c.isInteger = true)

include first reads integer

/-- What is read from an operand that gives an integer category a value. -/
theorem read_scalar_integer (value : List Char) :
    read (before ++ '=' :: value) =
      match Constant.readInteger? c.isSignedInteger (Text.trimEnd value) with
      | some k => .ok (.ofConstant (.scalar c) k)
      | none => .error (.invalidValue c.name (String.ofList (Text.trimEnd value))) := by
  rw [read_assigned first, reads, Except.bind, readConstant_integer integer]
  cases Constant.readInteger? c.isSignedInteger (Text.trimEnd value) <;> rfl

theorem read_integer_eq_ok_iff (value : List Char) (v : Value) :
    read (before ++ '=' :: value) = .ok v ↔
      ∃ k n, v = .ofConstant (.scalar c) k ∧ k.Represents c.isSignedInteger n ∧
        Writes c.isSignedInteger (Text.trimEnd value) n := by
  rw [read_scalar_integer first reads integer]
  constructor
  · intro done
    cases constant : Constant.readInteger? c.isSignedInteger (Text.trimEnd value) with
    | none =>
        rw [constant] at done
        cases done
    | some k =>
        rw [constant] at done
        obtain ⟨n, represents, written⟩ := Constant.readInteger?_eq_some_iff.1 constant
        exact ⟨k, n, (Except.ok.inj done).symm, represents, written⟩
  · rintro ⟨k, n, rfl, represents, written⟩
    rw [Constant.readInteger?_eq_some_iff.2 ⟨n, represents, written⟩]

theorem read_integer_eq_error_iff (value : List Char) (e : OperandError) :
    read (before ++ '=' :: value) = .error e ↔
      e = .invalidValue c.name (String.ofList (Text.trimEnd value)) ∧
        ∀ n, Writes c.isSignedInteger (Text.trimEnd value) n →
          ¬ Constant.Ranges c.isSignedInteger n := by
  rw [read_scalar_integer first reads integer, ← Constant.readInteger?_eq_none_iff]
  cases Constant.readInteger? c.isSignedInteger (Text.trimEnd value) with
  | none => simp [eq_comm]
  | some k => simp

end Scalar

/-! ## Numbers that a category holds -/

/-- A category of 64 bits holds the words of its signedness. -/
theorem holds_of_ranges {n : Int} (integer : c.isInteger = true)
    (width : c.bitWidth? .w64 = some 64) (ranges : Constant.Ranges c.isSignedInteger n) :
    c.Holds .w64 n := by
  refine (Category.holds_iff width).2 ?_
  cases sign : c.isSignedInteger with
  | true =>
      rw [sign] at ranges
      exact .inl ⟨sign, ranges⟩
  | false =>
      rw [sign] at ranges
      rw [Category.isInteger, sign, Bool.false_or] at integer
      exact .inr ⟨integer, ranges⟩

/-- Only the categories of 64 bits hold the least number of 33 bits. -/
theorem bitWidth?_of_holds (integer : c.isInteger = true) (holds : c.Holds .w64 (2 ^ 32)) :
    c.bitWidth? .w64 = some 64 := by
  obtain ⟨w, width, widths⟩ := Category.bitWidth?_of_isInteger .w64 integer
  rw [Category.holds_iff width, Category.HoldsAt, Category.HoldsSigned,
    Category.HoldsUnsigned] at holds
  rcases widths with rfl | rfl | rfl | rfl
  · omega
  · omega
  · omega
  · exact width

theorem ranges_two_pow_32 (signed : Bool) : Constant.Ranges signed (2 ^ 32) := by
  cases signed
  · exact ⟨by decide, by decide⟩
  · exact ⟨by decide, by decide⟩

theorem writes_two_pow_32 (signed : Bool) :
    Writes signed (Text.trimEnd "4294967296".toList) (2 ^ 32) := by
  have same : Text.trimEnd "4294967296".toList = "4294967296".toList := by decide
  have digits : IsDigits "4294967296".toList := ⟨by decide, List.all_eq_true.1 rfl⟩
  have value : decimal "4294967296".toList = 2 ^ 32 := by decide
  have written := Denotes.plain digits
  rw [value] at written
  rw [same]
  exact ⟨written, fun _ => by decide⟩

/-- The categories of 64 bits hold what they are given, and no others are sure to. -/
theorem holds_of_read_iff (first : '=' ∉ before)
    (reads : TypeExpr.read before = .ok (.scalar c)) (integer : c.isInteger = true) :
    (∀ value k n, read (before ++ '=' :: value) = .ok (.ofConstant (.scalar c) k) →
      k.Represents c.isSignedInteger n → c.Holds .w64 n) ↔ c.bitWidth? .w64 = some 64 := by
  constructor
  · intro held
    obtain ⟨k, represents⟩ :=
      Constant.exists_represents_iff.2 (ranges_two_pow_32 c.isSignedInteger)
    have accepted := (read_integer_eq_ok_iff first reads integer "4294967296".toList _).2
      ⟨k, _, rfl, represents, writes_two_pow_32 _⟩
    exact bitWidth?_of_holds integer (held _ k _ accepted represents)
  · intro width value k n _ represents
    exact holds_of_ranges integer width represents.ranges

/-- **Integer operands are numerals of 64-bit words.**  What gives an integer category a
value is accepted exactly if the value, without the blanks behind it, is a numeral of the
signedness of the category whose number is a word; it is then that number as a constant of
the category.  Everything else is refused as an invalid value.  The number is within the
range of the category, whatever the value, only where the category has 64 bits. -/
theorem read_integer {type : Descriptor} (first : '=' ∉ before)
    (reads : TypeExpr.read before = .ok type) (integer : type.isInteger = true) :
    ∃ c : Category, c.isInteger = true ∧ type = .scalar c ∧
      (∀ value v, read (before ++ '=' :: value) = .ok v ↔
        ∃ k n, v = .ofConstant (.scalar c) k ∧ k.Represents c.isSignedInteger n ∧
          Writes c.isSignedInteger (Text.trimEnd value) n) ∧
      (∀ value e, read (before ++ '=' :: value) = .error e ↔
        e = .invalidValue c.name (String.ofList (Text.trimEnd value)) ∧
          ∀ n, Writes c.isSignedInteger (Text.trimEnd value) n →
            ¬ Constant.Ranges c.isSignedInteger n) ∧
      ((∀ value k n, read (before ++ '=' :: value) = .ok (.ofConstant (.scalar c) k) →
        k.Represents c.isSignedInteger n → c.Holds .w64 n) ↔ c.bitWidth? .w64 = some 64) := by
  obtain ⟨c, whole, rfl⟩ := exists_scalar_of_read reads integer
  refine ⟨c, whole, rfl, ?_, ?_, ?_⟩
  · exact read_integer_eq_ok_iff first reads whole
  · exact read_integer_eq_error_iff first reads whole
  · exact holds_of_read_iff first reads whole

/-- An `i8` takes a number that is too small for it. -/
theorem read_i8_minus_129 :
    '=' ∉ " i8 ".toList ∧ TypeExpr.read " i8 ".toList = .ok (.scalar .i8) ∧
      (Descriptor.scalar .i8).isInteger = true ∧
      read (" i8 ".toList ++ '=' :: "-0129 ".toList) = .ok (.int .i8 (-129)) := by
  have first : '=' ∉ " i8 ".toList := by decide
  have reads : TypeExpr.read " i8 ".toList = .ok (.scalar .i8) :=
    (TypeExpr.read_congr (by decide)).trans (TypeExpr.read_name (c := .i8) (by decide))
  have integer : (Descriptor.scalar .i8).isInteger = true := Descriptor.isInteger_scalar .i8
  refine ⟨first, reads, integer, ?_⟩
  obtain ⟨c, -, type, accepted, -, -⟩ := read_integer first reads integer
  obtain rfl : Category.i8 = c := congrArg Descriptor.category type
  have digits : IsDigits "0129".toList := ⟨by decide, List.all_eq_true.1 rfl⟩
  have written : Writes true (Text.trimEnd "-0129 ".toList) (-129) := ⟨.minus digits, nofun⟩
  exact (accepted _ _).2 ⟨.int (-129), -129, rfl, .int (-129), written⟩

/-- **An `i8` of 300 is no invalid value**, though 300 is no number of 8 bits. -/
theorem read_i8_300 :
    read "i8=300".toList = .ok (.int .i8 300) ∧
      read "i8=300".toList ≠ .error (.invalidValue "i8" "300") ∧
      ¬ Category.i8.Holds .w64 300 := by
  have type : TypeExpr.read "i8".toList = .ok (.scalar .i8) :=
    TypeExpr.read_name (c := .i8) (by decide)
  have reads : read "i8=300".toList = .ok (.int .i8 300) :=
    read_scalar_integer (by decide) type rfl "300".toList
  refine ⟨reads, by rw [reads]; nofun, ?_⟩
  rw [Category.holds_iff rfl, Category.HoldsAt]
  decide

end Operand

end BinarySolver
