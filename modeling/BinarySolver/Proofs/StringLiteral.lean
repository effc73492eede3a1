/-
# BinarySolver.Proofs.StringLiteral -- what an emitted string literal denotes

`Literal.read` reads a narrow string literal by the rules of C++, among them that `\x` takes
all hexadecimal digits that follow it.  Whatever text is emitted, the literal ends at the
quote that ends the initialiser and shows no control character.  A control that is written
by its number takes the hexadecimal digits of the text behind it with it, so the literal
denotes the text if and only if no such control stands in front of such a digit:
**`ofConstant_str_denotes`**.
-/
import Mathlib.Data.List.Chain
import BinarySolver.Initializer

namespace BinarySolver

set_option autoImplicit false

/-! ## Reading -/

namespace Literal

/-- The value of a hexadecimal digit of either case. -/
def digit? (c : Char) : Option Nat :=
  if '0' ≤ c ∧ c ≤ '9' then some (c.toNat - 48)
  else if 'a' ≤ c ∧ c ≤ 'f' then some (c.toNat - 87)
  else if 'A' ≤ c ∧ c ≤ 'F' then some (c.toNat - 55)
  else none

def isDigit (c : Char) : Bool := (digit? c).isSome

/-- The number whose hexadecimal digits are those of `n` and then `digits`. -/
def extend (n : Nat) (digits : List Char) : Nat :=
  digits.foldl (fun n c => 16 * n + (digit? c).getD 0) n

/-- The character that an escape of one letter denotes. -/
def escape? : Char → Option Char
  | '"' => some '"'
  | '\\' => some '\\'
  | 'n' => some '\n'
  | 'r' => some '\r'
  | 't' => some '\t'
  | _ => none

/-- Puts a character in front of what has been read. -/
def cons (code : Nat) : Option (List Nat × List Char) → Option (List Nat × List Char) :=
  Option.map fun (codes, rest) => (code :: codes, rest)

/-- Reads a literal from behind its opening quote on: the characters that it denotes, by
their numbers, and what stands behind its closing quote. -/
def read : List Char → Option (List Nat × List Char)
  | [] => none
  | c :: cs =>
    if c = '"' then some ([], cs)
    else if c = '\\' then
      match cs with
      | [] => none
      | 'x' :: ds =>
        if (ds.takeWhile isDigit).isEmpty then none
        else cons (extend 0 (ds.takeWhile isDigit)) (read (ds.dropWhile isDigit))
      | e :: ds => (escape? e).bind fun d => cons d.toNat (read ds)
    else cons c.toNat (read cs)
termination_by cs => cs.length
decreasing_by
  · have := (List.dropWhile_sublist isDigit (l := ds)).length_le
    simp only [List.length_cons]
    omega
  · simp only [List.length_cons]
    omega
  · simp

variable {c : Char} {cs : List Char}

theorem read_quote (cs : List Char) : read ('"' :: cs) = some ([], cs) := by
  rw [read.eq_def]
  exact if_pos rfl

theorem read_plain (quote : c ≠ '"') (backslash : c ≠ '\\') (cs : List Char) :
    read (c :: cs) = cons c.toNat (read cs) := by
  rw [read.eq_def]
  exact (if_neg quote).trans (if_neg backslash)

theorem read_escape {e : Char} (denotes : escape? e = some c) (cs : List Char) :
    read ('\\' :: e :: cs) = cons c.toNat (read cs) := by
  have letter : e ≠ 'x' := by
    rintro rfl
    cases denotes
  rw [read.eq_def]
  simp [denotes]

/-- An escape by number takes all digits. -/
theorem read_number (digits : cs.takeWhile isDigit ≠ []) :
    read ('\\' :: 'x' :: cs) =
      cons (extend 0 (cs.takeWhile isDigit)) (read (cs.dropWhile isDigit)) := by
  have some : (cs.takeWhile isDigit).isEmpty = false := by simpa using digits
  rw [read.eq_def]
  simp [some]

theorem bounds_of_isDigit (digit : isDigit c = true) :
    48 ≤ c.toNat ∧ c.toNat ≤ 102 ∧ c.toNat ≠ 92 := by
  unfold isDigit digit? at digit
  split at digit
  · rename_i within
    have lower : 48 ≤ c.toNat := within.1
    have upper : c.toNat ≤ 57 := within.2
    omega
  split at digit
  · rename_i within
    have lower : 97 ≤ c.toNat := within.1
    have upper : c.toNat ≤ 102 := within.2
    omega
  split at digit
  · rename_i within
    have lower : 65 ≤ c.toNat := within.1
    have upper : c.toNat ≤ 70 := within.2
    omega
  · cases digit

theorem extend_append (n : Nat) (digits more : List Char) :
    extend n (digits ++ more) = extend (extend n digits) more :=
  List.foldl_append

end Literal

/-! ## Writing -/

namespace Initializer

open Literal (isDigit escape? extend)

variable {c : Char}

/-- A control that has no letter to escape it, and is written by its number. -/
def isNumbered (c : Char) : Bool := isControl c && c != '\n' && c != '\r' && c != '\t'

/-- How a character is written: escaped by a letter, by its number, or as it stands. -/
inductive Writes (c : Char) : List Char → Prop
  | letter {e : Char} (denotes : escape? e = some c) (shown : isControl e = false)
      (lettered : isNumbered c = false) (other : isDigit c = false) : Writes c ['\\', e]
  | number (numbered : isNumbered c = true) :
      Writes c ('\\' :: 'x' :: Text.hexPadded 2 c.toNat)
  | itself (shown : isControl c = false) (quote : c ≠ '"') (backslash : c ≠ '\\') : Writes c [c]

theorem writes_literalChar (c : Char) : Writes c (literalChar c) := by
  by_cases quote : c = '"'
  · subst quote
    exact .letter rfl rfl rfl rfl
  by_cases backslash : c = '\\'
  · subst backslash
    exact .letter rfl rfl rfl rfl
  by_cases feed : c = '\n'
  · subst feed
    exact .letter rfl rfl rfl rfl
  by_cases back : c = '\r'
  · subst back
    exact .letter rfl rfl rfl rfl
  by_cases tab : c = '\t'
  · subst tab
    exact .letter rfl rfl rfl rfl
  unfold literalChar
  rw [if_neg quote, if_neg backslash, if_neg feed, if_neg back, if_neg tab]
  split
  · rename_i control
    exact .number (by simp [isNumbered, control, feed, back, tab])
  · rename_i shown
    exact .itself (Bool.eq_false_iff.2 shown) quote backslash

theorem isControl_of_isNumbered (numbered : isNumbered c = true) : isControl c = true := by
  simp only [isNumbered, Bool.and_eq_true] at numbered
  exact numbered.1.1.1

theorem isControl_of_isDigit (digit : isDigit c = true) : isControl c = false := by
  have bounds := Literal.bounds_of_isDigit digit
  simp only [isControl, Bool.or_eq_false_iff, decide_eq_false_iff_not, beq_eq_false_iff_ne]
  omega

theorem isDigit_of_isNumbered (numbered : isNumbered c = true) : isDigit c = false := by
  refine Bool.eq_false_iff.2 fun digit => ?_
  have shown := isControl_of_isDigit digit
  rw [isControl_of_isNumbered numbered] at shown
  cases shown

/-- The two digits of a control are its number. -/
theorem hexPadded_of_isControl (control : isControl c = true) :
    (∀ d ∈ Text.hexPadded 2 c.toNat, isDigit d = true) ∧ Text.hexPadded 2 c.toNat ≠ [] ∧
      extend 0 (Text.hexPadded 2 c.toNat) = c.toNat := by
  have small : c.toNat < 128 := by
    simp only [isControl, Bool.or_eq_true, decide_eq_true_eq, beq_iff_eq] at control
    omega
  have all : ∀ n < 128, (Text.hexPadded 2 n).all isDigit = true ∧
      Text.hexPadded 2 n ≠ [] ∧ extend 0 (Text.hexPadded 2 n) = n := by decide
  obtain ⟨digits, some, value⟩ := all c.toNat small
  exact ⟨List.all_eq_true.1 digits, some, value⟩

theorem isControl_of_mem_literalBody {text : List Char} (member : c ∈ literalBody text) :
    isControl c = false := by
  obtain ⟨d, -, member⟩ := List.mem_flatMap.1 member
  have writes := writes_literalChar d
  generalize literalChar d = written at writes member
  cases writes with
  | letter _ shown =>
      simp only [List.mem_cons, List.not_mem_nil, or_false] at member
      rcases member with rfl | rfl
      · rfl
      · exact shown
  | number numbered =>
      simp only [List.mem_cons] at member
      rcases member with rfl | rfl | member
      · rfl
      · rfl
      · have digits := (hexPadded_of_isControl (isControl_of_isNumbered numbered)).1
        exact isControl_of_isDigit (digits c member)
  | itself shown =>
      rw [List.mem_singleton] at member
      exact member ▸ shown

theorem literalBody_cons (c : Char) (text : List Char) :
    literalBody (c :: text) = literalChar c ++ literalBody text :=
  List.flatMap_cons

/-- What is written of a text begins with the digits that the text begins with. -/
theorem digits_literalBody (text rest : List Char) :
    (literalBody text ++ '"' :: rest).takeWhile isDigit = text.takeWhile isDigit ∧
      (literalBody text ++ '"' :: rest).dropWhile isDigit =
        literalBody (text.dropWhile isDigit) ++ '"' :: rest := by
  have backslash : isDigit '\\' = false := by decide
  induction text with
  | nil => exact ⟨rfl, rfl⟩
  | cons c text ih =>
      rw [List.takeWhile_cons, List.dropWhile_cons]
      cases digit : isDigit c with
      | false =>
          have writes := writes_literalChar c
          simp only [literalBody_cons, Bool.false_eq_true, if_false]
          generalize literalChar c = written at writes
          cases writes with
          | letter => simp [backslash]
          | number => simp [backslash]
          | itself => simp [digit]
      | true =>
          have written : literalChar c = [c] := by
            have writes := writes_literalChar c
            generalize literalChar c = written at writes ⊢
            cases writes with
            | letter _ _ _ other => rw [other] at digit; cases digit
            | number numbered => rw [isDigit_of_isNumbered numbered] at digit; cases digit
            | itself => rfl
          simp [literalBody_cons, written, digit, ih]

/-! ## What is denoted -/

/-- The characters that the literal of a text denotes: a control that is written by its number
is one with the hexadecimal digits behind it. -/
def denoted : List Char → List Nat
  | [] => []
  | c :: cs =>
    if isNumbered c then
      extend c.toNat (cs.takeWhile isDigit) :: denoted (cs.dropWhile isDigit)
    else c.toNat :: denoted cs
termination_by cs => cs.length
decreasing_by
  · have := (List.dropWhile_sublist isDigit (l := cs)).length_le
    simp only [List.length_cons]
    omega
  · simp

/-- The literal of every text is read to its end. -/
theorem read_literalBody (text rest : List Char) :
    Literal.read (literalBody text ++ '"' :: rest) = some (denoted text, rest) := by
  fun_induction denoted text with
  | case1 => exact Literal.read_quote rest
  | case2 c cs numbered ih =>
      have writes := writes_literalChar c
      rw [literalBody_cons, List.append_assoc]
      generalize literalChar c = written at writes
      cases writes with
      | letter _ _ lettered => rw [lettered] at numbered; cases numbered
      | itself shown => rw [isControl_of_isNumbered numbered] at shown; cases shown
      | number =>
          obtain ⟨digits, some, value⟩ :=
            hexPadded_of_isControl (isControl_of_isNumbered numbered)
          obtain ⟨taken, left⟩ := digits_literalBody cs rest
          have front : (Text.hexPadded 2 c.toNat ++
              (literalBody cs ++ '"' :: rest)).takeWhile isDigit =
                Text.hexPadded 2 c.toNat ++ cs.takeWhile isDigit := by
            rw [List.takeWhile_append_of_pos digits, taken]
          have back : (Text.hexPadded 2 c.toNat ++
              (literalBody cs ++ '"' :: rest)).dropWhile isDigit =
                literalBody (cs.dropWhile isDigit) ++ '"' :: rest := by
            rw [List.dropWhile_append_of_pos digits, left]
          rw [List.cons_append, List.cons_append, Literal.read_number, front, back, ih,
            Literal.extend_append, value]
          · rfl
          · rw [front]
            exact List.append_ne_nil_of_left_ne_nil some _
  | case3 c cs other ih =>
      have writes := writes_literalChar c
      rw [literalBody_cons, List.append_assoc]
      generalize literalChar c = written at writes
      cases writes with
      | letter denotes =>
          rw [List.cons_append, List.cons_append, List.nil_append, Literal.read_escape denotes, ih]
          rfl
      | number numbered => exact absurd numbered other
      | itself _ quote backslash =>
          rw [List.cons_append, List.nil_append, Literal.read_plain quote backslash, ih]
          rfl

theorem length_denoted_le (text : List Char) : (denoted text).length ≤ text.length := by
  fun_induction denoted text with
  | case1 => exact Nat.le_refl 0
  | case2 c cs _ ih =>
      have left := (List.dropWhile_sublist isDigit (l := cs)).length_le
      simp only [List.length_cons]
      omega
  | case3 c cs _ ih =>
      simp only [List.length_cons]
      omega

/-- The second of two characters is taken for a digit of the number of the first. -/
def Absorbs (c d : Char) : Prop := isNumbered c = true ∧ isDigit d = true

/-- A literal denotes its text exactly if no character absorbs the next one. -/
theorem denoted_eq_iff (text : List Char) :
    denoted text = text.map Char.toNat ↔ text.IsChain fun c d => ¬ Absorbs c d := by
  fun_induction denoted text with
  | case1 => simp
  | case2 c cs numbered ih =>
      cases cs with
      | nil => simp [extend, denoted]
      | cons d ds =>
          rw [List.isChain_cons_cons]
          cases digit : isDigit d with
          | true =>
              -- the text that is left is shorter than what it would have to denote
              have left := length_denoted_le ((d :: ds).dropWhile isDigit)
              have shorter := (List.dropWhile_sublist isDigit (l := ds)).length_le
              rw [List.dropWhile_cons_of_pos digit] at left
              refine iff_of_false (fun same => ?_) fun apart => apart.1 ⟨numbered, digit⟩
              have lengths := congrArg List.length same
              rw [List.dropWhile_cons_of_pos digit] at lengths
              simp only [List.length_cons, List.length_map] at lengths
              omega
          | false =>
              have apart : ¬ Absorbs c d := fun absorbs => by
                rw [absorbs.2] at digit
                cases digit
              rw [List.dropWhile_cons_of_neg (by simp [digit])] at ih ⊢
              rw [List.takeWhile_cons_of_neg (by simp [digit]), List.map_cons,
                List.cons_eq_cons, ih]
              exact ⟨fun same => ⟨apart, same.2⟩, fun chain => ⟨rfl, chain.2⟩⟩
  | case3 c cs other ih =>
      rw [List.map_cons, List.cons_eq_cons, ih]
      cases cs with
      | nil => simp
      | cons d ds =>
          rw [List.isChain_cons_cons]
          have apart : ¬ Absorbs c d := fun absorbs => other absorbs.1
          exact ⟨fun same => ⟨apart, same.2⟩, fun chain => ⟨rfl, chain.2⟩⟩

/-! ## The initialiser of a text -/

/-- **What the literal of a text denotes.**  Between the quotes of the initialiser stands no
control character, and whatever follows, the literal is read up to the second of these quotes.
It denotes exactly the text if and only if no control that is written by its number stands in
front of a hexadecimal digit; else each such control takes the digits behind it with it. -/
theorem ofConstant_str_denotes (text : String) (type : Descriptor) :
    ∃ body, (ofConstant (.str text) type).text =
        type.category.spelling ++ "(\"" ++ String.ofList body ++ "\")" ∧
      (∀ c ∈ body, isControl c = false) ∧
      (∀ rest, Literal.read (body ++ '"' :: rest) = some (denoted text.toList, rest)) ∧
      (denoted text.toList = text.toList.map Char.toNat ↔
        text.toList.IsChain fun c d => ¬ Absorbs c d) := by
  refine ⟨literalBody text.toList, rfl, ?_, ?_, ?_⟩
  · intro c member
    exact isControl_of_mem_literalBody member
  · exact read_literalBody text.toList
  · exact denoted_eq_iff text.toList

/-- The literal of the control 1 and a letter `a` denotes the one character 26. -/
theorem literal_absorbs_letter :
    (ofConstant (.str "\x01a") (.scalar .str)).text = "str_jnt(\"\\x01a\")" ∧
      Literal.read "\\x01a\")".toList = some ([26], [')']) ∧
      "\x01a".toList.map Char.toNat = [1, 97] := by
  refine ⟨by decide, ?_, by decide⟩
  decide +kernel

end Initializer

end BinarySolver
