/-
# BinarySolver.Proofs.EmittedType -- types of the emitted program, as trees

A type of the emitted program is a word, a pointer to a type, or a template around at
least one type.  A pointer is a star behind, so a text does not tell its type before its
last star is read: `text_stars_append_inj` reads a type together with the stars behind
it, and `text_injective` follows.
-/
import Mathlib.Logic.Function.Iterate
import BinarySolver.Proofs.UniqueReading

namespace BinarySolver

set_option autoImplicit false

/-- The characters that templates and pointers are told by. -/
def emittedMarks : List Char := ['<', '>', ',', '*']

/-- A text without marks. -/
structure EmittedWord where
  text : List Char
  unmarked : ∀ c ∈ text, c ∉ emittedMarks
deriving DecidableEq

theorem EmittedWord.ext {v w : EmittedWord} (same : v.text = w.text) : v = w := by
  cases v
  cases w
  cases same
  rfl

inductive EmittedType where
  | word (w : EmittedWord)
  | pointer (target : EmittedType)
  | template (name : EmittedWord) (first : EmittedType) (rest : List EmittedType)

namespace EmittedType

open Text

/-- Induction on types, with the property for all arguments of a template. -/
@[induction_eliminator]
theorem recOn_arguments {motive : EmittedType → Prop} (word : ∀ w, motive (.word w))
    (pointer : ∀ t, motive t → motive (.pointer t))
    (template : ∀ name first rest, motive first → (∀ t ∈ rest, motive t) →
      motive (.template name first rest)) : ∀ t, motive t
  | .word w => word w
  | .pointer t => pointer t (recOn_arguments word pointer template t)
  | .template name first rest =>
      template name first rest (recOn_arguments word pointer template first)
        fun t _ => recOn_arguments word pointer template t

/-- The type in the emitted program. -/
def text : EmittedType → List Char
  | word w => w.text
  | pointer t => t.text ++ ['*']
  | template name first rest =>
    name.text ++ '<' :: first.text ++ rest.flatMap (fun t => ',' :: t.text) ++ ['>']

theorem text_template_append (name : EmittedWord) (first : EmittedType) (rest : List EmittedType)
    (x : List Char) : (template name first rest).text ++ x =
      name.text ++ '<' :: (first.text ++ separated ',' [] text rest ++ '>' :: x) := by
  rw [text]
  simp [separated]

/-! ## Stars behind a type -/

/-- The characters that stand behind an argument of a template. -/
def argumentStops : List Char := [',', '>']

def stars (n : Nat) : List Char := List.replicate n '*'

variable {m n : Nat} {x y : List Char}

theorem text_pointer_append (t : EmittedType) (n : Nat) (x : List Char) :
    (pointer t).text ++ (stars n ++ x) = t.text ++ (stars (n + 1) ++ x) := by
  rw [text, stars, stars, List.replicate_succ]
  simp

theorem follows_stars_append (ends : Follows argumentStops x) (n : Nat) :
    Follows ('*' :: argumentStops) (stars n ++ x) := by
  cases n with
  | zero =>
      intro c member
      exact .tail _ (ends c member)
  | succ n => exact follows_cons (.head _) _

theorem stars_append_ne (ends : Follows argumentStops x) (n : Nat) (y : List Char) :
    stars n ++ x ≠ '<' :: y := by
  intro same
  have front := follows_stars_append ends n
  rw [same] at front
  exact absurd (front '<' rfl) (by decide)

theorem stars_append_inj (leftEnd : Follows argumentStops x) (rightEnd : Follows argumentStops y)
    (same : stars m ++ x = stars n ++ y) : m = n ∧ x = y := by
  have star : ∀ k, ∀ c ∈ stars k, c = '*' := fun k c member => List.eq_of_mem_replicate member
  have other : ∀ z, Follows argumentStops z → ∀ c ∈ z.head?, ¬ c = '*' := by
    intro z ends c member
    have stops : ∀ c ∈ argumentStops, ¬ c = '*' := forall_mem_of_all (by decide)
    exact stops c (ends c member)
  obtain ⟨runs, rest⟩ := word_append_inj (star m) (star n) (other x leftEnd) (other y rightEnd) same
  have lengths := congrArg List.length runs
  simp only [stars, List.length_replicate] at lengths
  exact ⟨lengths, rest⟩

/-- Words in front of marks are equal if the texts are. -/
theorem marked_word_append_inj {v w : EmittedWord} (leftEnd : Follows emittedMarks x)
    (rightEnd : Follows emittedMarks y) (same : v.text ++ x = w.text ++ y) : v = w ∧ x = y := by
  obtain ⟨texts, rest⟩ := word_append_inj v.unmarked w.unmarked
    (fun c member absent => absent (leftEnd c member))
    (fun c member absent => absent (rightEnd c member)) same
  exact ⟨EmittedWord.ext texts, rest⟩

theorem follows_marks (ends : Follows argumentStops x) (n : Nat) :
    Follows emittedMarks (stars n ++ x) := by
  intro c member
  have marks : ∀ c ∈ '*' :: argumentStops, c ∈ emittedMarks :=
    forall_mem_of_all (by decide)
  exact marks c (follows_stars_append ends n c member)

theorem follows_angle (x : List Char) : Follows emittedMarks ('<' :: x) :=
  follows_cons (by decide) x

/-! ## Reading -/

/-- A text tells its type, the stars behind it being read as pointers to it. -/
def ReadsStarred (t : EmittedType) : Prop :=
  ∀ (u : EmittedType) (m n : Nat) (x y : List Char), Follows argumentStops x →
    Follows argumentStops y → t.text ++ (stars m ++ x) = u.text ++ (stars n ++ y) →
      pointer^[m] t = pointer^[n] u ∧ x = y

theorem ReadsStarred.readsUniquely {t : EmittedType} (starred : t.ReadsStarred) :
    ReadsUniquely text argumentStops t :=
  fun u x y leftEnd rightEnd same => starred u 0 0 x y leftEnd rightEnd same

theorem readsStarred_word (w : EmittedWord) : (word w).ReadsStarred := by
  intro u m n x y leftEnd rightEnd same
  -- A pointer on the right side adds its star to those behind the type it points to.
  induction u generalizing n with
  | word v =>
      rw [text, text] at same
      obtain ⟨rfl, tails⟩ := marked_word_append_inj (follows_marks leftEnd m)
        (follows_marks rightEnd n) same
      obtain ⟨rfl, rest⟩ := stars_append_inj leftEnd rightEnd tails
      exact ⟨rfl, rest⟩
  | pointer u ih =>
      rw [text_pointer_append] at same
      exact ih (n + 1) same
  | template name first rest =>
      rw [text, text_template_append] at same
      obtain ⟨-, tails⟩ := marked_word_append_inj (follows_marks leftEnd m)
        (follows_angle _) same
      exact absurd tails (stars_append_ne leftEnd m _)

theorem readsStarred_template (name : EmittedWord) {first : EmittedType} {rest : List EmittedType}
    (firstReads : first.ReadsStarred) (restReads : ∀ t ∈ rest, t.ReadsStarred) :
    (template name first rest).ReadsStarred := by
  intro u m n x y leftEnd rightEnd same
  rw [text_template_append] at same
  induction u generalizing n with
  | word v =>
      rw [text] at same
      obtain ⟨-, tails⟩ := marked_word_append_inj (follows_angle _) (follows_marks rightEnd n) same
      exact absurd tails.symm (stars_append_ne rightEnd n _)
  | pointer u ih =>
      rw [text_pointer_append] at same
      exact ih (n + 1) same
  | template other otherFirst otherRest =>
      rw [text_template_append] at same
      obtain ⟨rfl, arguments⟩ := marked_word_append_inj (follows_angle _) (follows_angle _) same
      obtain ⟨rfl, rfl, ends⟩ := list_append_inj (by decide) (by decide) (by decide)
        firstReads.readsUniquely (fun t member => (restReads t member).readsUniquely)
        otherFirst otherRest _ _ (List.cons.inj arguments).2
      obtain ⟨rfl, behind⟩ := stars_append_inj leftEnd rightEnd ends
      exact ⟨rfl, behind⟩

theorem readsStarred (t : EmittedType) : t.ReadsStarred := by
  induction t with
  | word w => exact readsStarred_word w
  | pointer t ih =>
      intro u m n x y leftEnd rightEnd same
      rw [text_pointer_append] at same
      exact ih u (m + 1) n x y leftEnd rightEnd same
  | template name first rest firstIh restIh => exact readsStarred_template name firstIh restIh

theorem text_injective {t u : EmittedType} (same : t.text = u.text) : t = u :=
  t.readsStarred.readsUniquely.eq same

end EmittedType

end BinarySolver
