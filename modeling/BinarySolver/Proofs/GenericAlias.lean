/-
# BinarySolver.Proofs.GenericAlias -- arguments given to an alias

The arguments of a type stand in two places: as text behind its name, and as its payload.
Resolving an alias that has arguments carries the text over to the target and leaves the
payload to the target (`resolve_withGenerics_of_aliasChain`), and it is the payload that is
spelled.  So an alias of a declared type loses its arguments, under any shapes, and is spelled
as an instance of its target only if there are none: **`spell_withGenerics_aliasChain`**.
-/
import Mathlib.Tactic.ByContra
import BinarySolver.Proofs.AliasResolution

namespace BinarySolver

set_option autoImplicit false

namespace Descriptor

variable {d p a : Descriptor} {name : String}

theorem elements?_wrap (shapes : List Shape) (d : Descriptor) :
    (d.wrap shapes).elements? = d.elements? := by
  rw [wrap_eq]
  rfl

/-- An alias in front of arguments is its target in front of the same text, at the place of the
alias. -/
theorem resolve_withGenerics_of_isName (names : a.aliasOf = some d)
    (identifier : Identifier.IsName a.signature) (arguments : List Descriptor) :
    (a.withGenerics arguments).resolve =
      { d.resolve with
        signature := (d.resolve.withGenerics arguments).signature, span := a.span } := by
  obtain ⟨rest, behind, ends⟩ := signature_withGenerics arguments
  rw [resolve_of_front (a := a.withGenerics arguments) names identifier (behind a) ends,
    behind d.resolve]
  rfl

/-- Behind a chain of aliases the text of the arguments is carried over; the payload is that of
the type in which the chain ends. -/
theorem resolve_withGenerics_of_aliasChain (declared : p.Declared name) (chain : p.AliasChain a)
    (arguments : List Descriptor) :
    (a.withGenerics arguments).resolve =
      { p with signature := (p.withGenerics arguments).signature, span := a.span } := by
  have resolved := resolve_of_aliasOf declared.aliasOf
  cases chain with
  | last identifier span =>
      rw [resolve_withGenerics_of_isName rfl identifier, resolved]
  | @link _ b identifier span chain =>
      have inner := chain.resolve
      rw [resolved] at inner
      rw [resolve_withGenerics_of_isName rfl identifier, inner]
      rfl

end Descriptor

namespace Speller

variable (s : Speller)

/-! ## Shapes around a spelling -/

/-- The spelling of shapes around what is spelled already. -/
def enclosed (shapes : List Shape) (spelled : String) : String :=
  shapes.foldr (fun shape inner =>
    match shape with
    | .pointer => inner ++ "*"
    | .array => applied s.templates.array [inner]
    | .slice => applied s.templates.slice [inner]) spelled

theorem spell_wrap {d : Descriptor} (simple : d.resolve.elements? = none) (shapes : List Shape) :
    s.spell (d.wrap shapes) = s.enclosed shapes (s.spell d) := by
  induction shapes with
  | nil => rfl
  | cons shape shapes ih =>
      have inner : (d.wrap shapes).resolve.elements? = none := by
        rw [Descriptor.resolve_wrap, Descriptor.elements?_wrap, simple]
      cases shape with
      | pointer => exact (s.spell_pointerTo _).trans (congrArg (· ++ "*") ih)
      | array =>
          exact (s.spell_arrayOf inner).trans
            (congrArg (fun text => applied s.templates.array [text]) ih)
      | slice =>
          exact (s.spell_sliceOf inner).trans
            (congrArg (fun text => applied s.templates.slice [text]) ih)

/-- Shapes add as much to one text as to another. -/
theorem length_enclosed (shapes : List Shape) (spelled : String) :
    (s.enclosed shapes spelled).length = (s.enclosed shapes "").length + spelled.length := by
  induction shapes with
  | nil => exact (Nat.zero_add _).symm
  | cons shape shapes ih =>
      cases shape with
      | pointer =>
          change (s.enclosed shapes spelled ++ "*").length =
            (s.enclosed shapes "" ++ "*").length + spelled.length
          rw [String.length_append, String.length_append, ih]
          omega
      | array | slice =>
          simp only [enclosed, List.foldr_cons, length_applied, Text.joined] at ih ⊢
          omega

/-- Texts that are spelled alike in the same shapes are of one length. -/
theorem length_eq_of_enclosed {shapes : List Shape} {left right : String}
    (same : s.enclosed shapes left = s.enclosed shapes right) : left.length = right.length := by
  have lengths := congrArg String.length same
  rw [length_enclosed, s.length_enclosed shapes right] at lengths
  exact Nat.add_left_cancel lengths

/-! ## Arguments -/

section Arguments

variable {s} {p a : Descriptor} {name : String}

/-- The text of arguments is not spelled. -/
theorem spell_withGenerics_of_aliasChain (unmapped : s.sources = none)
    (identifier : Identifier.IsName name) (declared : p.Declared name) (chain : p.AliasChain a)
    (arguments : List Descriptor) :
    s.spell (a.withGenerics arguments) = s.escaper name none := by
  obtain ⟨rest, behind, ends⟩ := Descriptor.signature_withGenerics arguments
  have front := behind p
  rw [declared.signature] at front
  let q : Descriptor :=
    { p with signature := (p.withGenerics arguments).signature, span := a.span }
  have resolved : (a.withGenerics arguments).resolve = q :=
    Descriptor.resolve_withGenerics_of_aliasChain declared chain arguments
  have bare : q.aliasOf = none := declared.aliasOf
  have plain : q.isPlain = true := Descriptor.isPlain_of_isName declared.multi identifier front
  have form : q.payloadForm = .named := declared.payloadForm
  have called : s.nameOf q = s.escaper name (s.file? q.span) :=
    s.nameOf_of_isName identifier front ends
  rw [← s.spell_resolve, resolved, s.spell_of_isPlain bare plain, form, body, called,
    file?_eq_none unmapped]

/-- A declared type with arguments is spelled by both. -/
theorem spell_withGenerics_of_declared (unmapped : s.sources = none)
    (identifier : Identifier.IsName name) (declared : p.Declared name)
    (arguments : List Descriptor) :
    s.spell (p.withGenerics arguments) =
      if arguments.isEmpty then s.escaper name none
      else applied (s.escaper name none) (arguments.map s.spell) := by
  obtain ⟨rest, behind, ends⟩ := Descriptor.signature_withGenerics arguments
  have front := behind p
  rw [declared.signature] at front
  have bare : (p.withGenerics arguments).aliasOf = none := declared.aliasOf
  have plain : (p.withGenerics arguments).isPlain = true :=
    Descriptor.isPlain_of_isName declared.multi identifier front
  have form : (p.withGenerics arguments).payloadForm = .generic arguments := rfl
  rw [s.spell_of_isPlain bare plain, form, body, s.nameOf_of_isName identifier front ends,
    file?_eq_none unmapped]

end Arguments

/-- **Arguments given to an alias are lost.**  Without a source map, for every escaper and all
templates: an alias of a declared type, or an alias of such an alias and so on, resolves with
arguments to the declared type with the text of the arguments behind its name and without the
arguments themselves.  So it is spelled as the type without arguments is, under any shapes, where
the type with the arguments is spelled with them; the two are spelled alike only if there are
none. -/
theorem spell_withGenerics_aliasChain (s : Speller) (unmapped : s.sources = none) {name : String}
    {p a : Descriptor} (identifier : Identifier.IsName name) (declared : p.Declared name)
    (chain : p.AliasChain a) (arguments : List Descriptor) (shapes : List Shape) :
    (a.withGenerics arguments).resolve =
        { p with signature := (p.withGenerics arguments).signature, span := a.span } ∧
      s.spell ((a.withGenerics arguments).wrap shapes) = s.spell (p.wrap shapes) ∧
      (arguments ≠ [] → s.spell ((p.withGenerics arguments).wrap shapes) =
        s.enclosed shapes (applied (s.escaper name none) (arguments.map s.spell))) ∧
      (s.spell ((a.withGenerics arguments).wrap shapes) =
        s.spell ((p.withGenerics arguments).wrap shapes) ↔ arguments = []) := by
  let applying := applied (s.escaper name none) (arguments.map s.spell)
  have resolved := Descriptor.resolve_withGenerics_of_aliasChain declared chain arguments
  have aliasSimple : (a.withGenerics arguments).resolve.elements? = none := by
    rw [resolved]
    exact Descriptor.elements?_of_multi declared.multi
  have simple : ∀ d : Descriptor, d.aliasOf = none → d.multi = false →
      d.resolve.elements? = none := by
    intro d bare single
    rw [Descriptor.resolve_of_aliasOf bare, Descriptor.elements?_of_multi single]
  have lost : s.spell ((a.withGenerics arguments).wrap shapes) =
      s.enclosed shapes (s.escaper name none) := by
    rw [s.spell_wrap aliasSimple,
      spell_withGenerics_of_aliasChain unmapped identifier declared chain]
  have target : s.spell (p.wrap shapes) = s.enclosed shapes (s.escaper name none) := by
    rw [s.spell_wrap (simple p declared.aliasOf declared.multi),
      s.spell_of_declared identifier declared, file?_eq_none unmapped]
  have kept : s.spell ((p.withGenerics arguments).wrap shapes) = s.enclosed shapes
      (if arguments.isEmpty then s.escaper name none else applying) := by
    rw [s.spell_wrap (simple (p.withGenerics arguments) declared.aliasOf declared.multi),
      spell_withGenerics_of_declared unmapped identifier declared]
  refine ⟨resolved, lost.trans target.symm, ?_, ?_⟩
  · intro given
    rw [kept, List.isEmpty_eq_false_iff.2 given]
    rfl
  · rw [lost, kept]
    constructor
    · intro same
      by_contra given
      rw [List.isEmpty_eq_false_iff.2 given, if_neg Bool.false_ne_true] at same
      -- the brackets of the arguments make one text longer than the other
      have lengths := s.length_eq_of_enclosed same
      have longer : applying.length = _ := length_applied _ _
      omega
    · rintro rfl
      rfl

/-- An array of pointers to an alias of an alias of a vector, given `i32` as its argument. -/
theorem spell_withGenerics_list :
    let p := (Descriptor.named .struct "Vec").withSpan ⟨some 0, 7, 10⟩
    let a := (Descriptor.aliasTo "List" ((Descriptor.aliasTo "Seq" p).withSpan .detached)).withSpan
      ⟨some 0, 20, 24⟩
    let arguments := [Descriptor.scalar .i32]
    let shapes := [Shape.array, .pointer]
    (ofConfig .standard).sources = none ∧ p.Declared "Vec" ∧ p.AliasChain a ∧
      (ofConfig .standard).spell ((a.withGenerics arguments).wrap shapes) = "array<JNID(Vec)*>" ∧
      (ofConfig .standard).spell ((p.withGenerics arguments).wrap shapes) =
        "array<JNID(Vec)<i32_jnt>*>" := by
  intro p a arguments shapes
  have declared : p.Declared "Vec" := .named (by decide) _
  have chain : p.AliasChain a := .link (by decide) _ (.last (by decide) _)
  obtain ⟨-, lost, kept, -⟩ := spell_withGenerics_aliasChain (ofConfig .standard) rfl (by decide)
    declared chain arguments shapes
  have bare : p.resolve.elements? = none := rfl
  refine ⟨rfl, declared, chain, ?_, ?_⟩
  · rw [lost, spell_wrap _ bare, spell_of_declared _ (by decide) declared]
    decide
  · rw [kept (List.cons_ne_nil _ _), List.map_singleton, spell_scalar _ rfl]
    decide

/-- Behind an alias a vector of numbers is spelled as a vector of nothing. -/
theorem spell_alias_of_vec_withGenerics :
    let p := Descriptor.named .struct "Vec"
    let a := Descriptor.aliasTo "List" p
    let arguments := [Descriptor.scalar .i32]
    p.Declared "Vec" ∧ p.AliasChain a ∧
      (ofConfig .standard).spell (a.withGenerics arguments) = "JNID(Vec)" ∧
      (ofConfig .standard).spell (p.withGenerics arguments) = "JNID(Vec)<i32_jnt>" ∧
      (ofConfig .standard).spell (a.withGenerics arguments) ≠
        (ofConfig .standard).spell (p.withGenerics arguments) := by
  intro p a arguments
  have vec : Identifier.IsName "Vec" := by decide
  have declared : p.Declared "Vec" := .named (by decide) .detached
  have chain : p.AliasChain a := .last (by decide) .detached
  have lost : (ofConfig .standard).spell (a.withGenerics arguments) = "JNID(Vec)" := by
    rw [spell_withGenerics_of_aliasChain rfl vec declared chain]
    decide
  have kept : (ofConfig .standard).spell (p.withGenerics arguments) = "JNID(Vec)<i32_jnt>" := by
    rw [spell_withGenerics_of_declared rfl vec declared, List.map_singleton, spell_scalar _ rfl]
    decide
  refine ⟨declared, chain, lost, kept, ?_⟩
  rw [lost, kept]
  decide

end Speller

end BinarySolver
