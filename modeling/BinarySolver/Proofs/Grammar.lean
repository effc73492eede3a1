/-
# BinarySolver.Proofs.Grammar -- type expressions are the texts of a grammar

    type     := blank* body blank*
    body     := '*' type | '[:]' type | '[]' type | '[' type ':' type ']'
              | '(' elements ')' | name
    elements := type | type ',' elements

`Derives`, `Body` and `Elements` are these rules, each with the tree that it builds.
-/
import BinarySolver.Proofs.Splitting
import BinarySolver.Proofs.Trim
import BinarySolver.Proofs.UniqueReading

namespace BinarySolver

set_option autoImplicit false

namespace TypeExpr

/-! ## The grammar -/

mutual

/-- A type is a body with blanks around it. -/
inductive Derives : List Char → TypeTree → Prop
  | padded {before body after : List Char} {t : TypeTree} (left : Text.IsBlank before)
      (right : Text.IsBlank after) (visible : Body body t) : Derives (before ++ body ++ after) t

/-- What stands between the blanks tells the node of the tree. -/
inductive Body : List Char → TypeTree → Prop
  | pointer {text : List Char} {t : TypeTree} (target : Derives text t) :
      Body ('*' :: text) (.pointer t)
  | slice {text : List Char} {t : TypeTree} (element : Derives text t) :
      Body ('[' :: ':' :: ']' :: text) (.slice t)
  | array {text : List Char} {t : TypeTree} (element : Derives text t) :
      Body ('[' :: ']' :: text) (.array t)
  | map {key value : List Char} {k v : TypeTree} (left : Derives key k) (right : Derives value v) :
      Body ('[' :: (key ++ ':' :: value) ++ [']']) (.map k v)
  | tuple {text : List Char} {first : TypeTree} {rest : List TypeTree}
      (elements : Elements text first rest) : Body ('(' :: text ++ [')']) (.tuple first rest)
  | name (n : TypeName) : Body n.text.toList (.name n)

/-- At least one type, separators in between. -/
inductive Elements : List Char → TypeTree → List TypeTree → Prop
  | last {text : List Char} {t : TypeTree} (element : Derives text t) : Elements text t []
  | more {text others : List Char} {t u : TypeTree} {us : List TypeTree}
      (element : Derives text t) (rest : Elements others u us) :
      Elements (text ++ ',' :: others) t (u :: us)

end

theorem Body.derives {body : List Char} {t : TypeTree} (visible : Body body t) :
    Derives body t := by
  have padded := @Derives.padded [] body [] t nofun nofun visible
  rw [List.nil_append, List.append_nil] at padded
  exact padded

/-! ## Derivable texts are passed over -/

theorem not_mem_of_isBlank {c : Char} (blank : Text.isBlank c = true) :
    c ∉ ['[', '(', ']', ')', ':', ','] :=
  Text.not_mem_of_all (p := fun d => Text.isBlank d = true) (by decide) blank

theorem not_mem_of_isLetterOrDigit {c : Char} (letter : IsLetterOrDigit c) :
    c ∉ ['[', '(', ']', ')', ':', ','] :=
  Text.not_mem_of_all (by decide) letter

section Passing

variable {separator : Char}

theorem passes_of_plain (either : separator = ':' ∨ separator = ',') {depth : Nat}
    {text : List Char} (plain : ∀ c ∈ text, c ∉ ['[', '(', ']', ')', ':', ',']) :
    Passes separator depth text := by
  refine passes_word fun c member => ?_
  have other := plain c member
  rcases either with rfl | rfl
  · simp_all
  · simp_all

mutual

theorem Derives.passes (either : separator = ':' ∨ separator = ',') :
    ∀ {text : List Char} {t : TypeTree}, Derives text t → ∀ depth, Passes separator depth text
  | _, _, .padded left right visible, depth =>
      ((passes_of_plain either fun c member => not_mem_of_isBlank (left c member)).append
        (visible.passes either depth)).append
          (passes_of_plain either fun c member => not_mem_of_isBlank (right c member))

theorem Body.passes (either : separator = ':' ∨ separator = ',') :
    ∀ {text : List Char} {t : TypeTree}, Body text t → ∀ depth, Passes separator depth text
  | _, _, .pointer target, depth => by
      have star : Passes separator depth ['*'] :=
        passes_of_plain either (Text.forall_mem_of_all (by decide))
      exact star.append (target.passes either depth)
  | _, _, .slice element, depth => by
      have colon : Passes separator (depth + 1) [':'] :=
        passes_singleton (by decide) (by decide) (.inr (Nat.succ_ne_zero depth))
      exact (colon.bracketed (.inl rfl) (.inl rfl)).append (element.passes either depth)
  | _, _, .array element, depth =>
      (passes_nil.bracketed (.inl rfl) (.inl rfl)).append (element.passes either depth)
  | _, _, .map left right, depth => by
      have colon : Passes separator (depth + 1) [':'] :=
        passes_singleton (by decide) (by decide) (.inr (Nat.succ_ne_zero depth))
      exact ((left.passes either (depth + 1)).append
        (colon.append (right.passes either (depth + 1)))).bracketed (.inl rfl) (.inl rfl)
  | _, _, .tuple elements, depth =>
      (elements.passes either depth).bracketed (.inr rfl) (.inr rfl)
  | _, _, .name n, depth =>
      passes_of_plain either fun c member =>
        not_mem_of_isLetterOrDigit (n.isLetterOrDigit_of_mem c member)

theorem Elements.passes (either : separator = ':' ∨ separator = ',') :
    ∀ {text : List Char} {t : TypeTree} {ts : List TypeTree}, Elements text t ts →
      ∀ depth, Passes separator (depth + 1) text
  | _, _, _, .last element, depth => element.passes either (depth + 1)
  | _, _, _, .more element rest, depth => by
      have comma : Passes separator (depth + 1) [','] :=
        passes_singleton (by decide) (by decide) (.inr (Nat.succ_ne_zero depth))
      exact (element.passes either (depth + 1)).append (comma.append (rest.passes either depth))

end

end Passing

end TypeExpr

end BinarySolver
