/-
# BinarySolver.Proofs.Trim -- blanks around a text

Trimming takes blanks from both ends and nothing else (`exists_trim`), and it does not
see the blanks that are put around a text (`trim_padded`).
-/
import Mathlib.Data.List.TakeWhile
import BinarySolver.Text.Blank

namespace BinarySolver.Text

set_option autoImplicit false

/-- A text of blanks. -/
def IsBlank (text : List Char) : Prop := ∀ c ∈ text, isBlank c = true

variable {text before after : List Char}

theorem isBlank_nil : IsBlank [] := nofun

theorem isBlank_space : IsBlank [' '] := List.forall_mem_singleton.2 rfl

theorem trimStart_append (blank : IsBlank before) (text : List Char) :
    trimStart (before ++ text) = trimStart text :=
  List.dropWhile_append_of_pos blank

theorem trimEnd_append (text : List Char) (blank : IsBlank after) :
    trimEnd (text ++ after) = trimEnd text := by
  have reversed : ∀ c ∈ after.reverse, isBlank c = true := by
    intro c member
    exact blank c (List.mem_reverse.1 member)
  rw [trimEnd, trimEnd, List.reverse_append, List.dropWhile_append_of_pos reversed]

theorem exists_trimStart (text : List Char) :
    ∃ before, IsBlank before ∧ text = before ++ trimStart text := by
  refine ⟨text.takeWhile isBlank, ?_, List.takeWhile_append_dropWhile.symm⟩
  intro c member
  exact List.mem_takeWhile_imp member

theorem exists_trimEnd (text : List Char) :
    ∃ after, IsBlank after ∧ text = trimEnd text ++ after := by
  obtain ⟨before, blank, parts⟩ := exists_trimStart text.reverse
  refine ⟨before.reverse, ?_, ?_⟩
  · intro c member
    exact blank c (List.mem_reverse.1 member)
  · have turned := congrArg List.reverse parts
    rw [List.reverse_reverse, List.reverse_append] at turned
    exact turned

theorem exists_trim (text : List Char) :
    ∃ before after, IsBlank before ∧ IsBlank after ∧ text = before ++ trim text ++ after := by
  obtain ⟨before, left, front⟩ := exists_trimStart text
  obtain ⟨after, right, back⟩ := exists_trimEnd (trimStart text)
  refine ⟨before, after, left, right, ?_⟩
  rw [trim, List.append_assoc, ← back]
  exact front

/-- Blanks around a text do not matter to trimming. -/
theorem trim_padded (left : IsBlank before) (body : List Char) (right : IsBlank after) :
    trim (before ++ body ++ after) = trim body := by
  have ends : trimEnd (trimStart (body ++ after)) = trimEnd (trimStart body) := by
    unfold trimStart
    rw [List.dropWhile_append]
    split
    · rename_i nothing
      have gone : after.dropWhile isBlank = [] := List.dropWhile_eq_nil_iff.2 right
      rw [gone, List.isEmpty_iff.1 nothing]
    · exact trimEnd_append _ right
  rw [trim, List.append_assoc, trimStart_append left, ends, trim]

theorem trim_trimEnd (text : List Char) : trim (trimEnd text) = trim text := by
  obtain ⟨after, blank, parts⟩ := exists_trimEnd text
  have padded := trim_padded isBlank_nil (trimEnd text) blank
  rw [List.nil_append, ← parts] at padded
  exact padded.symm

theorem trim_trimStart (text : List Char) : trim (trimStart text) = trim text := by
  obtain ⟨before, blank, parts⟩ := exists_trimStart text
  have padded := trim_padded blank (trimStart text) isBlank_nil
  rw [List.append_nil, ← parts] at padded
  exact padded.symm

theorem trimEnd_cons {c : Char} (visible : isBlank c = false) (text : List Char) :
    trimEnd (c :: text) = c :: trimEnd text := by
  unfold trimEnd
  rw [List.reverse_cons, List.dropWhile_append]
  split
  · rename_i nothing
    rw [List.isEmpty_iff.1 nothing]
    simp [visible]
  · rw [List.reverse_append]
    rfl

theorem trim_cons {c : Char} (visible : isBlank c = false) (text : List Char) :
    trim (c :: text) = c :: trimEnd text := by
  have kept : trimStart (c :: text) = c :: text := List.dropWhile_cons_of_neg (by simp [visible])
  rw [trim, kept, trimEnd_cons visible]

theorem trimEnd_append_singleton {c : Char} (visible : isBlank c = false) (text : List Char) :
    trimEnd (text ++ [c]) = text ++ [c] := by
  unfold trimEnd
  rw [List.reverse_append]
  simp [visible]

/-- A character that is no blank keeps apart what stands on its two sides. -/
theorem trimStart_append_cons {c : Char} (visible : isBlank c = false) (before after : List Char) :
    trimStart (before ++ c :: after) = trimStart before ++ c :: after := by
  unfold trimStart
  rw [List.dropWhile_append]
  split
  · rename_i nothing
    rw [List.isEmpty_iff.1 nothing, List.dropWhile_cons_of_neg (by simp [visible])]
    rfl
  · rfl

theorem trimEnd_append_cons {c : Char} (visible : isBlank c = false) (before after : List Char) :
    trimEnd (before ++ c :: after) = before ++ c :: trimEnd after := by
  have turned := trimStart_append_cons visible after.reverse before.reverse
  unfold trimStart at turned
  unfold trimEnd
  rw [List.reverse_append, List.reverse_cons, List.append_assoc, List.singleton_append, turned,
    List.reverse_append, List.reverse_cons, List.reverse_reverse, List.append_assoc,
    List.singleton_append]

theorem trim_append_cons {c : Char} (visible : isBlank c = false) (before after : List Char) :
    trim (before ++ c :: after) = trimStart before ++ c :: trimEnd after := by
  rw [trim, trimStart_append_cons visible, trimEnd_append_cons visible]

theorem trim_enclosed {opening closing : Char} (left : isBlank opening = false)
    (right : isBlank closing = false) (text : List Char) :
    trim (opening :: text ++ [closing]) = opening :: text ++ [closing] := by
  rw [List.cons_append, trim_cons left, trimEnd_append_singleton right]

theorem trim_of_visible (visible : ∀ c ∈ text, isBlank c = false) : trim text = text := by
  obtain ⟨before, after, left, right, parts⟩ := exists_trim text
  have none : ∀ blanks : List Char, IsBlank blanks → blanks ⊆ text → blanks = [] := by
    intro blanks blank inside
    refine List.eq_nil_iff_forall_not_mem.2 fun c member => ?_
    have both := blank c member
    rw [visible c (inside member)] at both
    cases both
  have front : before = [] := none before left (by rw [parts]; simp)
  have back : after = [] := none after right (by rw [parts]; simp)
  rw [front, back, List.nil_append, List.append_nil] at parts
  exact parts.symm

end BinarySolver.Text
