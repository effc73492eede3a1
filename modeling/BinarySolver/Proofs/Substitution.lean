/-
# BinarySolver.Proofs.Substitution -- texts in place of others, all at once

Several rules can be applied in one pass: `substituteAll`.  One rule alone is
`substitute`.  A character that no rule looks for stays, and keeps apart what stands on its
two sides (`substituteAll_append_cons`).
-/
import Mathlib.Data.List.Infix
import BinarySolver.Text.Substitution

namespace BinarySolver.Text

set_option autoImplicit false

/-- What is put in place of what. -/
structure Rule where
  old : List Char
  new : List Char

namespace Rule

/-- The text begins with the old text of the rule; an empty one stands nowhere. -/
def fits (text : List Char) (rule : Rule) : Bool :=
  !rule.old.isEmpty && rule.old.isPrefixOf text

variable {rule : Rule} {text : List Char}

theorem isPrefix_of_fits (fits : rule.fits text = true) : rule.old <+: text :=
  List.isPrefixOf_iff_prefix.1 (Bool.and_eq_true_iff.1 fits).2

theorem fits_old (some : rule.old ≠ []) : rule.fits rule.old = true := by
  have nonempty : (!rule.old.isEmpty) = true := by simp [some]
  rw [fits, nonempty, Bool.true_and]
  exact List.isPrefixOf_iff_prefix.2 (List.prefix_refl _)

end Rule

/-- Puts texts in place of others, all at once: wherever old texts stand, the new text of the
first rule that has one of them is put in, and is not searched again. -/
def substituteAll (rules : List Rule) : List Char → List Char
  | [] => []
  | c :: cs =>
    match rules.find? (Rule.fits (c :: cs)) with
    | some rule => rule.new ++ substituteAll rules (cs.drop (rule.old.length - 1))
    | none => c :: substituteAll rules cs
termination_by cs => cs.length
decreasing_by
  · simp only [List.length_drop, List.length_cons]; omega
  · simp

variable {rules : List Rule} {rule : Rule} {old new text : List Char} {c : Char}

theorem substituteAll_nil (rules : List Rule) : substituteAll rules [] = [] := by
  rw [substituteAll]

theorem substituteAll_of_find?_eq_some {cs : List Char}
    (found : rules.find? (Rule.fits (c :: cs)) = some rule) :
    substituteAll rules (c :: cs) =
      rule.new ++ substituteAll rules (cs.drop (rule.old.length - 1)) := by
  rw [substituteAll, found]

theorem substituteAll_of_find?_eq_none {cs : List Char}
    (missing : rules.find? (Rule.fits (c :: cs)) = none) :
    substituteAll rules (c :: cs) = c :: substituteAll rules cs := by
  rw [substituteAll, missing]

theorem substitute_eq (old new text : List Char) :
    substitute old new text = substituteAll [⟨old, new⟩] text := by
  fun_induction substitute old new text with
  | case1 => rw [substituteAll_nil]
  | case2 c cs found ih =>
      have first : [⟨old, new⟩].find? (Rule.fits (c :: cs)) = some ⟨old, new⟩ :=
        List.find?_cons_of_pos found
      rw [substituteAll_of_find?_eq_some first, ih]
  | case3 c cs missing ih =>
      have none : [⟨old, new⟩].find? (Rule.fits (c :: cs)) = none :=
        List.find?_cons_of_neg missing
      rw [substituteAll_of_find?_eq_none none, ih]

/-- The old text of the first rule that fits it becomes its new text. -/
theorem substituteAll_old (rule : Rule) (found : rules.find? (Rule.fits rule.old) = some rule) :
    substituteAll rules rule.old = rule.new := by
  cases front : rule.old with
  | nil =>
      have fits := List.find?_some found
      simp [Rule.fits, front] at fits
  | cons c cs =>
      rw [front] at found
      rw [substituteAll_of_find?_eq_some found, front, List.length_cons, Nat.add_sub_cancel,
        List.drop_length, substituteAll_nil, List.append_nil]

theorem substitute_self (some : old ≠ []) (new : List Char) : substitute old new old = new := by
  rw [substitute_eq]
  exact substituteAll_old ⟨old, new⟩ (List.find?_cons_of_pos (Rule.fits_old some))

/-! ## Texts that stay -/

/-- A text in which no old text stands stays as it is. -/
theorem substituteAll_of_not_infix (missing : ∀ rule ∈ rules, ¬ rule.old <:+: text) :
    substituteAll rules text = text := by
  induction text with
  | nil => rw [substituteAll_nil]
  | cons c cs ih =>
      have none : rules.find? (Rule.fits (c :: cs)) = none :=
        List.find?_eq_none.2 fun rule member fits =>
          missing rule member (Rule.isPrefix_of_fits fits).isInfix
      rw [substituteAll_of_find?_eq_none none, ih fun rule member inside =>
        missing rule member (inside.trans (List.suffix_cons c cs).isInfix)]

theorem substitute_of_not_infix (missing : ¬ old <:+: text) : substitute old new text = text := by
  rw [substitute_eq]
  refine substituteAll_of_not_infix fun rule member => ?_
  rwa [List.mem_singleton.1 member]

/-! ## Characters that no rule looks for -/

theorem isPrefixOf_append_cons (absent : c ∉ old) (before after : List Char) :
    old.isPrefixOf (before ++ c :: after) = old.isPrefixOf before := by
  induction old generalizing before with
  | nil => rfl
  | cons d ds ih =>
      rw [List.mem_cons, not_or] at absent
      cases before with
      | nil => simp [List.isPrefixOf, Ne.symm absent.1]
      | cons e es => rw [List.cons_append, List.isPrefixOf, List.isPrefixOf, ih absent.2]

/-- Whether a rule fits is told by what stands in front of the character. -/
theorem find?_fits_append_cons (absent : ∀ rule ∈ rules, c ∉ rule.old)
    (before after : List Char) :
    rules.find? (Rule.fits (before ++ c :: after)) = rules.find? (Rule.fits before) := by
  induction rules with
  | nil => rfl
  | cons first others ih =>
      obtain ⟨here, there⟩ := List.forall_mem_cons.1 absent
      have same : first.fits (before ++ c :: after) = first.fits before := by
        rw [Rule.fits, Rule.fits, isPrefixOf_append_cons here]
      rw [List.find?_cons, List.find?_cons, same, ih there]

theorem find?_fits_nil (rules : List Rule) : rules.find? (Rule.fits []) = none := by
  refine List.find?_eq_none.2 fun rule _ fits => ?_
  obtain ⟨some, start⟩ := Bool.and_eq_true_iff.1 fits
  cases old : rule.old with
  | nil => simp [old] at some
  | cons d ds => simp [old] at start

theorem substituteAll_append_cons (absent : ∀ rule ∈ rules, c ∉ rule.old)
    (before after : List Char) :
    substituteAll rules (before ++ c :: after) =
      substituteAll rules before ++ c :: substituteAll rules after := by
  fun_induction substituteAll rules before with
  | case1 =>
      have none := (find?_fits_append_cons absent [] after).trans (find?_fits_nil rules)
      exact substituteAll_of_find?_eq_none none
  | case2 d ds rule found ih =>
      have same := (find?_fits_append_cons absent (d :: ds) after).trans found
      have short : rule.old.length - 1 ≤ ds.length := by
        have fits := (Rule.isPrefix_of_fits (List.find?_some found)).length_le
        rw [List.length_cons] at fits
        omega
      rw [List.cons_append] at same ⊢
      rw [substituteAll_of_find?_eq_some same,
        List.drop_append_of_le_length short, ih, List.append_assoc]
  | case3 d ds missing ih =>
      have same := (find?_fits_append_cons absent (d :: ds) after).trans missing
      rw [List.cons_append] at same ⊢
      rw [substituteAll_of_find?_eq_none same, ih, List.cons_append]

end BinarySolver.Text
