/-
# BinarySolver.Proofs.NumeralReading -- which texts write which whole number

    numeral := ['+' | '-'] digit digit*

A text writes a whole number (`Denotes`) if it is a numeral of it in decimal: zeros in
front do not matter, and nothing else may stand around.  A numeral of the unsigned kind
takes no minus sign, not even before zero (`Writes`).  The words that are read are exactly
those that are written: `readInt64?_eq_some_iff` and `readUInt64?_eq_some_iff`.
-/
import Mathlib.Data.Nat.Digits.Defs
import BinarySolver.Numeral.Reading

namespace BinarySolver.Numeral

set_option autoImplicit false

variable {cs : List Char} {n : Int}

/-! ## Digits -/

def digit (c : Char) : Nat := c.toNat - '0'.toNat

/-- The number that digits write in decimal, the leading one first. -/
def decimal (cs : List Char) : Nat := Nat.ofDigits 10 (cs.reverse.map digit)

/-- One digit or more. -/
structure IsDigits (cs : List Char) : Prop where
  nonempty : cs ≠ []
  digits : ∀ c ∈ cs, isDigit c = true

theorem digitsValue_eq (cs : List Char) : digitsValue cs = decimal cs := by
  rw [digitsValue, decimal, Nat.ofDigits_eq_foldr, List.foldr_map, List.foldr_reverse]
  simp only [digit, Nat.cast_id, Nat.add_comm]

theorem readDigits?_eq_some_iff {m : Nat} :
    readDigits? cs = some m ↔ IsDigits cs ∧ m = decimal cs := by
  have digits : (!cs.isEmpty && cs.all isDigit) = true ↔ IsDigits cs := by
    rw [Bool.and_eq_true, Bool.not_eq_true', List.isEmpty_eq_false_iff, List.all_eq_true]
    exact ⟨fun ⟨any, all⟩ => ⟨any, all⟩, fun ⟨any, all⟩ => ⟨any, all⟩⟩
  rw [readDigits?, Option.ite_none_right_eq_some, digits, Option.some_inj, digitsValue_eq, eq_comm]

/-- No sign is a digit. -/
theorem not_isDigits_cons {c : Char} (sign : isDigit c = false) : ¬ IsDigits (c :: cs) := by
  intro ⟨_, digits⟩
  rw [digits c List.mem_cons_self] at sign
  cases sign

/-! ## Signs -/

/-- The text is a numeral of the number. -/
inductive Denotes : List Char → Int → Prop where
  | plain {cs : List Char} (digits : IsDigits cs) : Denotes cs (decimal cs)
  | plus {cs : List Char} (digits : IsDigits cs) : Denotes ('+' :: cs) (decimal cs)
  | minus {cs : List Char} (digits : IsDigits cs) : Denotes ('-' :: cs) (-decimal cs)

theorem readSign_of_isDigits (digits : IsDigits cs) : readSign cs = (false, cs) := by
  unfold readSign
  split
  · exact absurd digits (not_isDigits_cons (by decide))
  · exact absurd digits (not_isDigits_cons (by decide))
  · rfl

theorem readSign_fst (cs : List Char) : (readSign cs).1 = true ↔ cs.head? = some '-' := by
  unfold readSign
  split
  · simp
  · simp
  · rename_i minus plus
    cases cs with
    | nil => simp
    | cons c rest =>
        rw [List.head?_cons, Option.some_inj]
        exact ⟨nofun, fun sign => absurd (congrArg (· :: rest) sign) (minus rest)⟩

theorem readInt?_eq (cs : List Char) : readInt? cs =
    (readDigits? (readSign cs).2).map fun m : Nat =>
      if (readSign cs).1 then -(m : Int) else m := by
  unfold readInt?
  obtain ⟨negative, rest⟩ := readSign cs
  dsimp only
  cases readDigits? rest <;> rfl

/-- The unsigned reader takes no minus sign, and is the signed one for the rest. -/
theorem readUInt64?_eq (cs : List Char) : readUInt64? cs =
    if cs.head? = some '-' then none else (readInt? cs).bind toUInt64? := by
  rw [readInt?_eq, ← if_congr (readSign_fst cs) rfl rfl]
  unfold readUInt64?
  obtain ⟨negative, rest⟩ := readSign cs
  dsimp only
  cases negative with
  | true => rfl
  | false => cases readDigits? rest <;> rfl

theorem readInt?_eq_some_iff : readInt? cs = some n ↔ Denotes cs n := by
  rw [readInt?_eq]
  constructor
  · intro reads
    obtain ⟨m, digits, rfl⟩ := Option.map_eq_some_iff.1 reads
    obtain ⟨written, rfl⟩ := readDigits?_eq_some_iff.1 digits
    clear digits reads
    revert written
    unfold readSign
    split
    · exact .minus
    · exact .plus
    · exact .plain
  · intro written
    cases written with
    | plain digits => rw [readSign_of_isDigits digits, readDigits?_eq_some_iff.2 ⟨digits, rfl⟩]; rfl
    | plus digits => rw [readSign, readDigits?_eq_some_iff.2 ⟨digits, rfl⟩]; rfl
    | minus digits => rw [readSign, readDigits?_eq_some_iff.2 ⟨digits, rfl⟩]; rfl

/-! ## Words -/

/-- The text is a numeral of the number, of the signed or of the unsigned kind. -/
structure Writes (signed : Bool) (cs : List Char) (n : Int) : Prop where
  denotes : Denotes cs n
  minus : signed = false → cs.head? ≠ some '-'

theorem toInt64?_eq_some_iff {x : Int64} : toInt64? n = some x ↔ n = x.toInt := by
  have low := x.le_toInt
  have high := x.toInt_lt
  unfold toInt64? minInt64 maxInt64
  constructor
  · intro word
    obtain ⟨bounds, word⟩ := Option.ite_none_right_eq_some.1 word
    rw [← Option.some_inj.1 word, Int64.toInt_ofInt_of_le (by omega) (by omega)]
  · rintro rfl
    rw [if_pos (by omega), Int64.ofInt_toInt]

theorem toUInt64?_eq_some_iff {x : UInt64} : toUInt64? n = some x ↔ n = x.toNat := by
  have high := x.toNat_lt
  unfold toUInt64? maxUInt64
  constructor
  · intro word
    obtain ⟨bounds, word⟩ := Option.ite_none_right_eq_some.1 word
    rw [← Option.some_inj.1 word, UInt64.toNat_ofNat_of_lt' (by rw [UInt64.size]; omega),
      Int.toNat_of_nonneg bounds.1]
  · rintro rfl
    rw [if_pos (by omega), Int.toNat_natCast, UInt64.ofNat_toNat]

theorem readInt64?_eq_some_iff {x : Int64} : readInt64? cs = some x ↔ Writes true cs x.toInt := by
  rw [readInt64?, Option.bind_eq_some_iff]
  constructor
  · rintro ⟨n, reads, word⟩
    rw [toInt64?_eq_some_iff.1 word] at reads
    exact ⟨readInt?_eq_some_iff.1 reads, nofun⟩
  · intro written
    exact ⟨_, readInt?_eq_some_iff.2 written.denotes, toInt64?_eq_some_iff.2 rfl⟩

theorem readUInt64?_eq_some_iff {x : UInt64} :
    readUInt64? cs = some x ↔ Writes false cs x.toNat := by
  rw [readUInt64?_eq, Option.ite_none_left_eq_some, Option.bind_eq_some_iff]
  constructor
  · rintro ⟨minus, n, reads, word⟩
    rw [toUInt64?_eq_some_iff.1 word] at reads
    exact ⟨readInt?_eq_some_iff.1 reads, fun _ => minus⟩
  · intro written
    exact ⟨written.minus rfl, _, readInt?_eq_some_iff.2 written.denotes,
      toUInt64?_eq_some_iff.2 rfl⟩

end BinarySolver.Numeral
