/-
# BinarySolver.Proofs.Splitting -- parts between separators outside of brackets

Splitting cuts a text at separators and loses nothing else (`joinParts_splitFrom`).  A
text is passed over at a depth if splitting finds no cut in it and is at the same depth
behind it (`Passes`): so are words without brackets and separators, texts one behind the
other, and a text between brackets that is passed over one deeper.
-/
import BinarySolver.TypeExpr

namespace BinarySolver.TypeExpr

set_option autoImplicit false

variable {separator : Char}

/-! ## Joining -/

/-- The text that parts are cut from. -/
def joinParts (separator : Char) : List (List Char) → List Char
  | [] => []
  | part :: parts => part ++ parts.flatMap fun p => separator :: p

theorem joinParts_consHead (c : Char) (parts : List (List Char)) :
    joinParts separator (consHead c parts) = c :: joinParts separator parts := by
  cases parts <;> rfl

theorem joinParts_nil_cons {parts : List (List Char)} (some : parts ≠ []) :
    joinParts separator ([] :: parts) = separator :: joinParts separator parts := by
  cases parts with
  | nil => exact absurd rfl some
  | cons => rfl

theorem consHead_ne_nil (c : Char) (parts : List (List Char)) : consHead c parts ≠ [] := by
  cases parts <;> simp [consHead]

theorem splitFrom_ne_nil (depth : Nat) (text : List Char) :
    splitFrom separator depth text ≠ [] := by
  fun_cases splitFrom separator depth text with
  | case1 => simp
  | case2 => exact consHead_ne_nil _ _
  | case3 => exact consHead_ne_nil _ _
  | case4 => simp
  | case5 => exact consHead_ne_nil _ _

/-- Splitting loses nothing but the separators. -/
theorem joinParts_splitFrom (depth : Nat) (text : List Char) :
    joinParts separator (splitFrom separator depth text) = text := by
  fun_induction splitFrom separator depth text with
  | case1 => rfl
  | case2 depth c cs opens ih => rw [joinParts_consHead, ih]
  | case3 depth c cs _ closes ih => rw [joinParts_consHead, ih]
  | case4 depth c cs _ _ cut ih => rw [joinParts_nil_cons (splitFrom_ne_nil _ _), ih, cut.1]
  | case5 depth c cs _ _ _ ih => rw [joinParts_consHead, ih]

/-! ## Passing over a text -/

/-- Puts a text in front of the first part. -/
def joinHead (text : List Char) (parts : List (List Char)) : List (List Char) :=
  text.foldr consHead parts

theorem joinHead_cons (text part : List Char) (parts : List (List Char)) :
    joinHead text (part :: parts) = (text ++ part) :: parts := by
  induction text with
  | nil => rfl
  | cons c text ih =>
      rw [joinHead, List.foldr_cons, ← joinHead, ih]
      rfl

/-- At a depth, splitting finds no cut in a text and keeps the depth behind it. -/
def Passes (separator : Char) (depth : Nat) (text : List Char) : Prop :=
  ∀ rest, splitFrom separator depth (text ++ rest) = joinHead text (splitFrom separator depth rest)

variable {depth : Nat} {text other : List Char}

theorem passes_nil : Passes separator depth [] := fun _ => rfl

theorem Passes.append (first : Passes separator depth text)
    (second : Passes separator depth other) : Passes separator depth (text ++ other) := by
  intro rest
  rw [List.append_assoc, first, second, joinHead, joinHead, joinHead, List.foldr_append]

/-- A character that is no bracket and cuts nothing. -/
theorem passes_singleton {c : Char} (opens : c ≠ '[' ∧ c ≠ '(') (closes : c ≠ ']' ∧ c ≠ ')')
    (cuts : c ≠ separator ∨ depth ≠ 0) : Passes separator depth [c] := by
  intro rest
  have uncut : ¬ (c = separator ∧ depth = 0) := by
    rintro ⟨same, zero⟩
    rcases cuts with other | deep
    · exact other same
    · exact deep zero
  rw [List.singleton_append, splitFrom, if_neg (by simp [opens]), if_neg (by simp [closes]),
    if_neg uncut]
  rfl

/-- A word without brackets and separators. -/
theorem passes_word (plain : ∀ c ∈ text, c ∉ ['[', '(', ']', ')', separator]) :
    Passes separator depth text := by
  induction text with
  | nil => exact passes_nil
  | cons c cs ih =>
      have here := plain c (.head cs)
      simp only [List.mem_cons, List.not_mem_nil, or_false, not_or] at here
      obtain ⟨square, round, squareEnd, roundEnd, other⟩ := here
      exact (passes_singleton ⟨square, round⟩ ⟨squareEnd, roundEnd⟩ (.inl other)).append
        (ih fun d member => plain d (.tail c member))

/-- A text between brackets, which is passed over one deeper. -/
theorem Passes.bracketed {opening closing : Char} (opens : opening = '[' ∨ opening = '(')
    (closes : closing = ']' ∨ closing = ')') (inner : Passes separator (depth + 1) text) :
    Passes separator depth (opening :: text ++ [closing]) := by
  intro rest
  have front : splitFrom separator depth (opening :: (text ++ closing :: rest)) =
      consHead opening (splitFrom separator (depth + 1) (text ++ closing :: rest)) := by
    rw [splitFrom, if_pos opens]
  have back : splitFrom separator (depth + 1) (closing :: rest) =
      consHead closing (splitFrom separator depth rest) := by
    have other : ¬ (closing = '[' ∨ closing = '(') := by
      rcases closes with rfl | rfl <;> decide
    rw [splitFrom, if_neg other, if_pos closes]
    rfl
  have whole : opening :: text ++ [closing] ++ rest = opening :: (text ++ closing :: rest) := by
    simp
  rw [whole, front, inner, back]
  simp [joinHead]

/-! ## Cuts -/

theorem splitTopLevel_of_passes (part : Passes separator 0 text) :
    splitTopLevel separator text = [text] := by
  have whole := part []
  rw [List.append_nil, splitFrom, joinHead_cons, List.append_nil] at whole
  exact whole

theorem splitTopLevel_append_cons (plain : separator ∉ ['[', '(', ']', ')'])
    (part : Passes separator 0 text) (others : List Char) :
    splitTopLevel separator (text ++ separator :: others) =
      text :: splitTopLevel separator others := by
  have cut : splitFrom separator 0 (separator :: others) =
      [] :: splitFrom separator 0 others := by
    simp only [List.mem_cons, List.not_mem_nil, or_false, not_or] at plain
    rw [splitFrom, if_neg (by simp [plain]), if_neg (by simp [plain]), if_pos ⟨rfl, rfl⟩]
  rw [splitTopLevel, part, cut, joinHead_cons, List.append_nil]
  rfl

end BinarySolver.TypeExpr
