/-
# BinarySolver.Proofs.Outline -- what of a type does not depend on its names

A rule asks a type for its category, for whether it is a tuple, and for the markers and the
bracket in front of its signature.  `SameOutline` says that two types answer alike.  Aliased
types, once they are resolved, are counterparts: they are built in one way from aliased
components (`Aliased.counterpart`).  So they have one outline (`Counterpart.outline`), and they
are tuples of aliased elements, or enums of aliased types, together.
-/
import BinarySolver.Proofs.Aliasing
import BinarySolver.Proofs.BestEffort

namespace BinarySolver

set_option autoImplicit false

namespace Descriptor

variable {d e f : Descriptor}

/-! ## Outlines -/

/-- The markers of pointers, arrays and slices. -/
def markers : List String := ["*", "[]", "[:]"]

theorem isPlain_marked {marker : String} (shape : marker ∈ markers) (d : Descriptor) :
    (d.marked marker).isPlain = false := by
  simp only [markers, List.mem_cons, List.not_mem_nil, or_false] at shape
  rcases shape with rfl | rfl | rfl <;> simp [isPlain, startsWith, toList_signature_marked]

/-- Two types show the same of themselves, their names and their parts left out. -/
structure SameOutline (d e : Descriptor) : Prop where
  category : d.category = e.category
  multi : d.multi = e.multi
  pointers : d.pointers = e.pointers
  bracket : d.startsWith '[' = e.startsWith '['
  array : d.isArray = e.isArray
  slice : d.isSlice = e.isSlice

namespace SameOutline

theorem refl (d : Descriptor) : SameOutline d d := ⟨rfl, rfl, rfl, rfl, rfl, rfl⟩

theorem symm (same : SameOutline d e) : SameOutline e d :=
  ⟨same.category.symm, same.multi.symm, same.pointers.symm, same.bracket.symm, same.array.symm,
    same.slice.symm⟩

theorem trans (first : SameOutline d e) (second : SameOutline e f) : SameOutline d f :=
  ⟨first.category.trans second.category, first.multi.trans second.multi,
    first.pointers.trans second.pointers, first.bracket.trans second.bracket,
    first.array.trans second.array, first.slice.trans second.slice⟩

theorem star (same : SameOutline d e) : d.startsWith '*' = e.startsWith '*' := by
  rw [Bool.eq_iff_iff, startsWith_star_iff, startsWith_star_iff, same.pointers]

theorem isPlain (same : SameOutline d e) : d.isPlain = e.isPlain := by
  rw [Descriptor.isPlain, Descriptor.isPlain, same.multi, same.star, same.bracket]

theorem isA (same : SameOutline d e) (c : Category) : d.isA c = e.isA c := by
  rw [Descriptor.isA, Descriptor.isA, same.category, same.isPlain]

theorem isPointer (same : SameOutline d e) : d.isPointer = e.isPointer := by
  rw [Descriptor.isPointer, Descriptor.isPointer, same.star, isVoidptr, isVoidptr, same.isA]

theorem isMap (same : SameOutline d e) : d.isMap = e.isMap := by
  rw [Descriptor.isMap, Descriptor.isMap, same.category, same.bracket, same.array, same.slice]

theorem isNullable (same : SameOutline d e) : d.isNullable = e.isNullable := by
  simp only [Descriptor.isNullable, isNil, isFunc, isTrait, isAny, same.isA, same.isPointer,
    same.slice, same.isMap]

/-- Types without a marker and without a bracket in front show their category only. -/
theorem of_bare (category : d.category = e.category) (multi : d.multi = e.multi)
    (leftStar : d.startsWith '*' = false) (leftBracket : d.startsWith '[' = false)
    (rightStar : e.startsWith '*' = false) (rightBracket : e.startsWith '[' = false) :
    SameOutline d e := by
  have none : ∀ d : Descriptor, d.startsWith '*' = false → d.pointers = 0 := by
    intro d star
    refine Nat.eq_zero_of_not_pos fun more => ?_
    rw [startsWith_star_iff.2 more] at star
    cases star
  refine ⟨category, multi, ?_, leftBracket.trans rightBracket.symm, ?_, ?_⟩
  · rw [none d leftStar, none e rightStar]
  · rw [isArray_of_startsWith leftBracket, isArray_of_startsWith rightBracket]
  · rw [isSlice_of_startsWith leftBracket, isSlice_of_startsWith rightBracket]

theorem of_isPlain (category : d.category = e.category) (left : d.isPlain = true)
    (right : e.isPlain = true) : SameOutline d e := by
  exact of_bare category ((multi_of_isPlain left).trans (multi_of_isPlain right).symm)
    (startsWith_star_of_isPlain left) (startsWith_bracket_of_isPlain left)
    (startsWith_star_of_isPlain right) (startsWith_bracket_of_isPlain right)

theorem withSpan (same : SameOutline d e) (left right : Span) :
    SameOutline (d.withSpan left) (e.withSpan right) :=
  ⟨same.category, same.multi, same.pointers, same.bracket, same.array, same.slice⟩

/-- A pointer shows how many pointers it points to; of what stands behind another marker
nothing more is seen. -/
theorem marked (same : SameOutline d e) {marker : String} (shape : marker ∈ markers) :
    SameOutline (d.marked marker) (e.marked marker) := by
  have pointers := same.pointers
  unfold Descriptor.pointers at pointers
  simp only [markers, List.mem_cons, List.not_mem_nil, or_false] at shape
  rcases shape with rfl | rfl | rfl <;> refine ⟨same.category, same.multi, ?_, ?_, ?_, ?_⟩ <;>
    simp [Descriptor.pointers, startsWith, isArray, isSlice, toList_signature_marked,
      List.isPrefixOf, pointers]

end SameOutline

/-! ## Fronts -/

/-- All that is seen of a map is that it is one. -/
theorem SameOutline.map {k l : Descriptor} (left : Opens k.signature.toList)
    (right : Opens l.signature.toList) (v w : Descriptor) :
    SameOutline (.map k v) (.map l w) := by
  obtain ⟨leftArray, leftSlice⟩ := isArray_map left v
  obtain ⟨rightArray, rightSlice⟩ := isArray_map right w
  refine ⟨rfl, rfl, ?_, ?_, leftArray.trans rightArray.symm, leftSlice.trans rightSlice.symm⟩
  · simp [Descriptor.pointers, toList_signature_map]
  · simp [startsWith, toList_signature_map]

theorem SameOutline.tuple (ds es : List Descriptor) : SameOutline (.tuple ds) (.tuple es) := by
  have front : ∀ (c : Char) (ds : List Descriptor), c ≠ '(' →
      (Descriptor.tuple ds).startsWith c = false := by
    intro c ds other
    simp [startsWith, toList_signature_tuple, other.symm]
  exact of_bare rfl rfl (front _ _ (by decide)) (front _ _ (by decide)) (front _ _ (by decide))
    (front _ _ (by decide))

/-! ## Counterparts -/

/-- Two resolved types that are built in one way from aliased components. -/
inductive Counterpart : Descriptor → Descriptor → Prop
  | scalar (c : Category) : Counterpart (.scalar c) (.scalar c)
  | named (c : Category) {name : String} (identifier : Identifier.IsName name) :
      Counterpart (.named c name) (.named c name)
  | marked {d e : Descriptor} {marker : String} (shape : marker ∈ markers)
      (inner : Counterpart d e) : Counterpart (d.marked marker) (e.marked marker)
  | map {k l v w : Descriptor} (key : Aliased k l) (value : Aliased v w) :
      Counterpart (.map k v) (.map l w)
  | tuple {parts : List (Descriptor × Descriptor)} (elements : ∀ p ∈ parts, Aliased p.1 p.2) :
      Counterpart (.tuple (parts.map Prod.fst)) (.tuple (parts.map Prod.snd))
  | function {params : List (Param (Descriptor × Descriptor))} {ret out : Descriptor}
      (types : ∀ p ∈ params, Aliased p.type.1 p.type.2) (result : Aliased ret out) :
      Counterpart (.function (params.map (Param.map Prod.fst)) ret)
        (.function (params.map (Param.map Prod.snd)) out)
  | enumeration {name : String} {d e : Descriptor} (identifier : Identifier.IsName name)
      (underlying : Aliased d e) : Counterpart (.enumeration name d) (.enumeration name e)
  | withGenerics (c : Category) {name : String} {parts : List (Descriptor × Descriptor)}
      (identifier : Identifier.IsName name) (arguments : ∀ p ∈ parts, Aliased p.1 p.2) :
      Counterpart ((Descriptor.named c name).withGenerics (parts.map Prod.fst))
        ((Descriptor.named c name).withGenerics (parts.map Prod.snd))
  | withSpan {d e : Descriptor} (same : Counterpart d e) (left right : Span) :
      Counterpart (d.withSpan left) (e.withSpan right)

theorem withSpan_span (d : Descriptor) : d.withSpan d.span = d := by
  cases d
  rfl

/-- Resolving takes the aliases away that are not in a component. -/
theorem Aliased.counterpart (aliased : Aliased d e) : Counterpart d.resolve e.resolve := by
  induction aliased with
  | scalar c => exact .scalar c
  | named c identifier => exact .named c identifier
  | pointerTo target ih =>
      rw [resolve_pointerTo, resolve_pointerTo]
      exact .marked (by decide) ih
  | arrayOf element ih =>
      rw [resolve_arrayOf, resolve_arrayOf]
      exact .marked (by decide) ih
  | sliceOf element ih =>
      rw [resolve_sliceOf, resolve_sliceOf]
      exact .marked (by decide) ih
  | map key value => exact .map key value
  | tuple elements => exact .tuple elements
  | function types result => exact .function types result
  | enumeration identifier underlying => exact .enumeration identifier underlying
  | withGenerics c identifier arguments => exact .withGenerics c identifier arguments
  | aliasTo identifier target ih =>
      rw [resolve_aliasTo identifier, resolve_aliasTo identifier]
      exact ih.withSpan .detached .detached
  | withSpan same left right ih =>
      rw [resolve_withSpan, resolve_withSpan]
      exact ih.withSpan left right
  | @behind name d e identifier same ih =>
      rw [resolve_aliasTo identifier, ← withSpan_span d.resolve]
      exact ih.withSpan d.resolve.span .detached

theorem Counterpart.aliased (same : Counterpart d e) : Aliased d e := by
  induction same with
  | scalar c => exact .scalar c
  | named c identifier => exact .named c identifier
  | marked shape inner ih =>
      simp only [markers, List.mem_cons, List.not_mem_nil, or_false] at shape
      rcases shape with rfl | rfl | rfl
      · exact .pointerTo ih
      · exact .arrayOf ih
      · exact .sliceOf ih
  | map key value => exact .map key value
  | tuple elements => exact .tuple elements
  | function types result => exact .function types result
  | enumeration identifier underlying => exact .enumeration identifier underlying
  | withGenerics c identifier arguments => exact .withGenerics c identifier arguments
  | withSpan same left right ih => exact ih.withSpan left right

namespace Counterpart

/-- Aliases in the components change nothing of what a type shows. -/
theorem outline (same : Counterpart d e) : SameOutline d e := by
  induction same with
  | scalar c => exact .refl _
  | named c identifier => exact .refl _
  | marked shape inner ih => exact ih.marked shape
  | map key value => exact .map key.opens.1 key.opens.2 _ _
  | tuple => exact .tuple _ _
  | function => exact .of_isPlain rfl (isPlain_function ..) (isPlain_function ..)
  | enumeration identifier =>
      exact .of_isPlain rfl (isPlain_enumeration identifier _) (isPlain_enumeration identifier _)
  | withGenerics c identifier =>
      exact .of_isPlain rfl (isPlain_withGenerics c identifier _)
        (isPlain_withGenerics c identifier _)
  | withSpan same left right ih => exact ih.withSpan left right

/-- Counterparts are both several values at once, with aliased elements, or neither is. -/
theorem elements (same : Counterpart d e) :
    (d.multi = false ∧ e.multi = false ∧ d.elements? = none ∧ e.elements? = none) ∨
      ∃ parts : List (Descriptor × Descriptor), d.elements? = some (parts.map Prod.fst) ∧
        e.elements? = some (parts.map Prod.snd) ∧ ∀ p ∈ parts, Aliased p.1 p.2 := by
  induction same with
  | marked shape inner ih => exact ih
  | @tuple parts elements => exact .inr ⟨parts, rfl, rfl, elements⟩
  | withSpan same left right ih => exact ih
  | _ => exact .inl ⟨rfl, rfl, rfl, rfl⟩

/-- Counterparts are both enums of aliased types, or neither is an enum of a type. -/
theorem underlying (same : Counterpart d e) :
    (d.underlying? = none ∧ e.underlying? = none) ∨
      ∃ u v, d.underlying? = some u ∧ e.underlying? = some v ∧ Aliased u v := by
  induction same with
  | @marked d e marker shape inner ih =>
      have hidden : ∀ d : Descriptor, (d.marked marker).underlying? = none := by
        intro d
        apply underlying?_of_isEnum_eq_false
        rw [isEnum, Descriptor.isA, isPlain_marked shape, Bool.and_false]
      exact .inl ⟨hidden d, hidden e⟩
  | @enumeration name u v identifier underlying =>
      have shown : ∀ d : Descriptor, (Descriptor.enumeration name d).underlying? = some d := by
        intro d
        have enum : (Descriptor.enumeration name d).isEnum = true :=
          isA_iff.2 ⟨rfl, isPlain_enumeration identifier d⟩
        exact if_pos enum
      exact .inr ⟨u, v, shown u, shown v, underlying⟩
  | withSpan same left right ih => exact ih
  | _ => exact .inl ⟨rfl, rfl⟩

end Counterpart

end Descriptor

end BinarySolver
