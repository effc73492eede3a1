/-
# BinarySolver.Proofs.Aliasing -- aliases leave no trace in a spelling

An alias may stand anywhere in a type: under markers, in a key, among the elements of a
tuple or the arguments of a name.  `Aliased` relates a type that is built (`Constructed.aliased`)
to the types that it becomes when aliases are put around its components.  A name is cut into
itself alone, so an alias resolves to its target at the place of the alias
(`resolve_aliasTo`), and without a source map no place is spelled (`spell_withSpan`).  By
induction on the constructors aliased types are spelled alike: **`spell_aliased`**.
-/
import BinarySolver.Proofs.PlainSpelling

namespace BinarySolver

set_option autoImplicit false

/-! ## Aliases around components -/

/-- A parameter whose type is another. -/
def Param.map {δ ε : Type} (f : δ → ε) (p : Param δ) : Param ε :=
  ⟨p.name, f p.type, p.isConst, p.variadic⟩

namespace Descriptor

/-- The second type is the first with aliases around any of its components, at any depth
and any number of them around one component; places do not matter.  Components in lists
are given as pairs of what they are and what they become. -/
inductive Aliased : Descriptor → Descriptor → Prop
  | scalar (c : Category) : Aliased (.scalar c) (.scalar c)
  | named (c : Category) {name : String} (identifier : Identifier.IsName name) :
      Aliased (.named c name) (.named c name)
  | pointerTo {d e : Descriptor} (target : Aliased d e) : Aliased d.pointerTo e.pointerTo
  | arrayOf {d e : Descriptor} (element : Aliased d e) : Aliased d.arrayOf e.arrayOf
  | sliceOf {d e : Descriptor} (element : Aliased d e) : Aliased d.sliceOf e.sliceOf
  | map {k l v w : Descriptor} (key : Aliased k l) (value : Aliased v w) :
      Aliased (.map k v) (.map l w)
  | tuple {parts : List (Descriptor × Descriptor)} (elements : ∀ p ∈ parts, Aliased p.1 p.2) :
      Aliased (.tuple (parts.map Prod.fst)) (.tuple (parts.map Prod.snd))
  | function {params : List (Param (Descriptor × Descriptor))} {ret out : Descriptor}
      (types : ∀ p ∈ params, Aliased p.type.1 p.type.2) (result : Aliased ret out) :
      Aliased (.function (params.map (Param.map Prod.fst)) ret)
        (.function (params.map (Param.map Prod.snd)) out)
  | enumeration {name : String} {d e : Descriptor} (identifier : Identifier.IsName name)
      (underlying : Aliased d e) : Aliased (.enumeration name d) (.enumeration name e)
  | withGenerics (c : Category) {name : String} {parts : List (Descriptor × Descriptor)}
      (identifier : Identifier.IsName name) (arguments : ∀ p ∈ parts, Aliased p.1 p.2) :
      Aliased ((Descriptor.named c name).withGenerics (parts.map Prod.fst))
        ((Descriptor.named c name).withGenerics (parts.map Prod.snd))
  | aliasTo {name : String} {d e : Descriptor} (identifier : Identifier.IsName name)
      (target : Aliased d e) : Aliased (.aliasTo name d) (.aliasTo name e)
  | withSpan {d e : Descriptor} (same : Aliased d e) (left right : Span) :
      Aliased (d.withSpan left) (e.withSpan right)
  | behind {name : String} {d e : Descriptor} (identifier : Identifier.IsName name)
      (same : Aliased d e) : Aliased d (.aliasTo name e)

theorem Aliased.tuple_self {ds : List Descriptor} (same : ∀ d ∈ ds, Aliased d d) :
    Aliased (.tuple ds) (.tuple ds) := by
  have pairs : ∀ p ∈ ds.map fun d => (d, d), Aliased p.1 p.2 := by
    intro p member
    obtain ⟨d, inside, rfl⟩ := List.mem_map.1 member
    exact same d inside
  have whole := Aliased.tuple pairs
  simpa [Function.comp_def] using whole

theorem Aliased.withGenerics_self (c : Category) {name : String} {ds : List Descriptor}
    (identifier : Identifier.IsName name) (same : ∀ d ∈ ds, Aliased d d) :
    Aliased ((Descriptor.named c name).withGenerics ds)
      ((Descriptor.named c name).withGenerics ds) := by
  have pairs : ∀ p ∈ ds.map fun d => (d, d), Aliased p.1 p.2 := by
    intro p member
    obtain ⟨d, inside, rfl⟩ := List.mem_map.1 member
    exact same d inside
  have whole := Aliased.withGenerics c identifier pairs
  simpa [Function.comp_def] using whole

theorem Aliased.function_self {params : List (Param Descriptor)} {ret : Descriptor}
    (types : ∀ p ∈ params, Aliased p.type p.type) (result : Aliased ret ret) :
    Aliased (.function params ret) (.function params ret) := by
  have pairs : ∀ p ∈ params.map (Param.map fun d => (d, d)), Aliased p.type.1 p.type.2 := by
    intro p member
    obtain ⟨q, inside, rfl⟩ := List.mem_map.1 member
    exact types q inside
  have whole := Aliased.function pairs result
  simpa [Function.comp_def, Param.map] using whole

/-- Every type that is built may be left as it is. -/
theorem Constructed.aliased {d : Descriptor} (built : d.Constructed) : Aliased d d := by
  induction built with
  | scalar c => exact .scalar c
  | named c identifier => exact .named c identifier
  | pointerTo built ih => exact .pointerTo ih
  | arrayOf built ih => exact .arrayOf ih
  | sliceOf built ih => exact .sliceOf ih
  | map key value keyIh valueIh => exact .map keyIh valueIh
  | tuple elements ih => exact .tuple_self ih
  | function types result typesIh resultIh => exact .function_self typesIh resultIh
  | enumeration identifier underlying ih => exact .enumeration identifier ih
  | aliasTo identifier target ih => exact .aliasTo identifier ih
  | withGenerics c identifier arguments ih => exact .withGenerics_self c identifier ih

/-- What aliases are put around may be left as it is. -/
theorem Aliased.left_self {d e : Descriptor} (aliased : Aliased d e) : Aliased d d := by
  have firsts : ∀ {parts : List (Descriptor × Descriptor)}, (∀ p ∈ parts, Aliased p.1 p.1) →
      ∀ d ∈ parts.map Prod.fst, Aliased d d := by
    intro parts same d member
    obtain ⟨p, inside, rfl⟩ := List.mem_map.1 member
    exact same p inside
  induction aliased with
  | scalar c => exact .scalar c
  | named c identifier => exact .named c identifier
  | pointerTo target ih => exact .pointerTo ih
  | arrayOf element ih => exact .arrayOf ih
  | sliceOf element ih => exact .sliceOf ih
  | map key value keyIh valueIh => exact .map keyIh valueIh
  | tuple elements ih => exact .tuple_self (firsts ih)
  | function types result typesIh resultIh =>
      refine .function_self (fun p member => ?_) resultIh
      obtain ⟨q, inside, rfl⟩ := List.mem_map.1 member
      exact typesIh q inside
  | enumeration identifier underlying ih => exact .enumeration identifier ih
  | withGenerics c identifier arguments ih => exact .withGenerics_self c identifier (firsts ih)
  | aliasTo identifier target ih => exact .aliasTo identifier ih
  | withSpan same left right ih => exact ih.withSpan left left
  | behind identifier same ih => exact ih

/-- No aliased type has a signature that could be taken for the rest of a marker. -/
theorem Aliased.opens {d e : Descriptor} (aliased : Aliased d e) :
    Opens d.signature.toList ∧ Opens e.signature.toList := by
  induction aliased with
  | scalar c => exact ⟨(Constructed.scalar c).opens, (Constructed.scalar c).opens⟩
  | named c identifier => exact ⟨opens_of_isName identifier, opens_of_isName identifier⟩
  | pointerTo | arrayOf | sliceOf =>
      exact ⟨opens_signature_marked (by decide) _, opens_signature_marked (by decide) _⟩
  | map =>
      rw [toList_signature_map, toList_signature_map]
      exact ⟨⟨by decide, by decide⟩, ⟨by decide, by decide⟩⟩
  | tuple =>
      rw [toList_signature_tuple, toList_signature_tuple]
      exact ⟨⟨by decide, by decide⟩, ⟨by decide, by decide⟩⟩
  | function => exact ⟨opens_signature_function .., opens_signature_function ..⟩
  | enumeration identifier => exact ⟨opens_of_isName identifier, opens_of_isName identifier⟩
  | withGenerics c identifier =>
      exact ⟨opens_signature_withGenerics (opens_of_isName identifier) _,
        opens_signature_withGenerics (opens_of_isName identifier) _⟩
  | aliasTo identifier => exact ⟨opens_of_isName identifier, opens_of_isName identifier⟩
  | withSpan same left right ih => exact ih
  | behind identifier same ih => exact ⟨ih.1, opens_of_isName identifier⟩

/-! ## Places and aliases -/

/-- A type resolves to the same type at any place. -/
theorem resolve_withSpan (d : Descriptor) (span : Span) :
    (d.withSpan span).resolve = d.resolve.withSpan span := by
  obtain ⟨category, signature, aliasOf, payload, multi, place⟩ := d
  cases aliasOf <;> simp only [withSpan, resolve]

/-- An alias is its target with what stands behind the name of the alias, at the place of the
alias. -/
theorem resolve_of_front {a t : Descriptor} {name rest : String} (names : a.aliasOf = some t)
    (identifier : Identifier.IsName name) (front : a.signature = name ++ rest)
    (ends : ∀ c ∈ rest.toList.head?, Identifier.isPart c = false) :
    a.resolve =
      { t.resolve with signature := t.resolve.signature ++ rest, span := a.span } := by
  have cut := Identifier.split_append_of_isName identifier ends
  rw [← front] at cut
  obtain ⟨category, signature, aliasOf, payload, multi, span⟩ := a
  cases names
  simp only at cut
  simp only [resolve, cut, String.empty_append]

/-- An alias with an identifier for a name is its target at its own place. -/
theorem resolve_of_isName {a t : Descriptor} (names : a.aliasOf = some t)
    (identifier : Identifier.IsName a.signature) : a.resolve = t.resolve.withSpan a.span := by
  have nothing : ∀ c ∈ "".toList.head?, Identifier.isPart c = false := fun c member => by
    cases member
  rw [resolve_of_front names identifier String.append_empty.symm nothing, withSpan,
    String.append_empty]

theorem resolve_aliasTo {name : String} (identifier : Identifier.IsName name) (d : Descriptor) :
    (aliasTo name d).resolve = d.resolve.withSpan .detached :=
  resolve_of_isName rfl identifier

end Descriptor

/-- A form whose shapes stand at some place. -/
def Form.withSpan (span : Span) : Form → Form
  | .array element => .array (element.withSpan span)
  | .slice element => .slice (element.withSpan span)
  | form => form

namespace Descriptor

theorem withSpan_ofCategory (c : Category) (span : Span) :
    (innerForm.ofCategory c).withSpan span = innerForm.ofCategory c := by
  cases c <;> rfl

theorem innerForm_withSpan (d : Descriptor) (span : Span) :
    (d.withSpan span).innerForm = d.innerForm.withSpan span := by
  have shown : (d.withSpan span).isMap = d.isMap := rfl
  simp only [innerForm, shown]
  simp only [withSpan]
  split
  · rfl
  · rfl
  · split
    · split
      · rfl
      · rw [withSpan_ofCategory]
    · rfl
    · rfl
    · rw [withSpan_ofCategory]

/-- Only the element of an array or a slice stands where the whole type stands. -/
theorem form_withSpan (d : Descriptor) (span : Span) :
    (d.withSpan span).form = d.form.withSpan span := by
  have same : (d.withSpan span).elements? = d.elements? := rfl
  cases elements : d.elements? with
  | some ds =>
      rw [form_of_elements? elements, form_of_elements? (same.trans elements)]
      rfl
  | none =>
      rw [form_of_elements?_eq_none elements, form_of_elements?_eq_none (same.trans elements)]
      exact innerForm_withSpan d.stripPointers span

end Descriptor

namespace Speller

variable (s : Speller)

/-! ## Places are not spelled -/

section Unmapped

variable {s}

/-- Without a source map there are no files. -/
theorem file?_eq_none (unmapped : s.sources = none) (span : Span) : s.file? span = none := by
  rw [file?, unmapped]
  cases span.source <;> rfl

theorem body_withSpan (unmapped : s.sources = none) (d : Descriptor) (span : Span) (f : Form) :
    s.body (d.withSpan span) f = s.body d f := by
  have name : s.nameOf (d.withSpan span) = s.nameOf d := by
    simp only [nameOf, file?_eq_none unmapped]
    rfl
  cases f <;> simp only [body, name]
  rfl

theorem spell_withSpan (unmapped : s.sources = none) (d : Descriptor) (span : Span) :
    s.spell (d.withSpan span) = s.spell d := by
  have smaller := Descriptor.partsSize_form_lt d.resolve
  have resolved := Descriptor.size_resolve_le d
  have pointers : (d.resolve.withSpan span).pointers = d.resolve.pointers := rfl
  rw [spell_eq, spell_eq, Descriptor.resolve_withSpan, Descriptor.form_withSpan, pointers,
    body_withSpan unmapped]
  cases form : d.resolve.form with
  | array element =>
      have inside : element.size < d.size := by
        rw [form, Form.partsSize] at smaller
        omega
      rw [Form.withSpan, body, body, spell_withSpan unmapped element span]
  | slice element =>
      have inside : element.size < d.size := by
        rw [form, Form.partsSize] at smaller
        omega
      rw [Form.withSpan, body, body, spell_withSpan unmapped element span]
  | _ => rfl
termination_by d.size

/-- Without a source map an alias is spelled as its target. -/
theorem spell_aliasTo (unmapped : s.sources = none) {name : String}
    (identifier : Identifier.IsName name) (d : Descriptor) :
    s.spell (.aliasTo name d) = s.spell d := by
  rw [← spell_resolve, Descriptor.resolve_aliasTo identifier, spell_withSpan unmapped,
    spell_resolve]

/-! ## Aliased types -/

/-- Two types are spelled alike, and so are their elements if they are tuples behind markers,
for a bracket in front of a tuple is not spelled. -/
structure SpelledAlike (s : Speller) (d e : Descriptor) : Prop where
  spelling : s.spell e = s.spell d
  elements : e.resolve.elements?.map (List.map s.spell) =
    d.resolve.elements?.map (List.map s.spell)

namespace SpelledAlike

variable {d e : Descriptor}

theorem of_simple (left : d.resolve.elements? = none) (right : e.resolve.elements? = none)
    (spelling : s.spell e = s.spell d) : SpelledAlike s d e := by
  refine ⟨spelling, ?_⟩
  rw [left, right]

/-- Two types are tuples behind markers, or neither is. -/
theorem simple_or_elements (alike : SpelledAlike s d e) :
    (d.resolve.elements? = none ∧ e.resolve.elements? = none) ∨
      ∃ ds es, d.resolve.elements? = some ds ∧ e.resolve.elements? = some es ∧
        es.map s.spell = ds.map s.spell := by
  have same := alike.elements
  cases left : d.resolve.elements? with
  | none =>
      rw [left, Option.map_none, Option.map_eq_none_iff] at same
      exact .inl ⟨rfl, same⟩
  | some ds =>
      rw [left, Option.map_some, Option.map_eq_some_iff] at same
      obtain ⟨es, right, spelled⟩ := same
      exact .inr ⟨ds, es, rfl, right, spelled⟩

theorem marked (alike : SpelledAlike s d e) {marker : String}
    (bare : Identifier.IsMarker marker)
    (spelling : s.spell (e.marked marker) = s.spell (d.marked marker)) :
    SpelledAlike s (d.marked marker) (e.marked marker) := by
  refine ⟨spelling, ?_⟩
  rw [Descriptor.resolve_marked bare, Descriptor.resolve_marked bare]
  exact alike.elements

/-- A marker that is spelled as a template in front of all but tuples keeps types alike. -/
theorem bracketed (alike : SpelledAlike s d e) {marker template : String}
    (bare : Identifier.IsMarker marker)
    (nested : ∀ d : Descriptor, d.resolve.elements? = none →
      s.spell (d.marked marker) = applied template [s.spell d])
    (bracketless : ∀ (d : Descriptor) (ds : List Descriptor), d.resolve.elements? = some ds →
      s.spell (d.marked marker) = s.spell (.tuple ds)) :
    SpelledAlike s (d.marked marker) (e.marked marker) := by
  refine alike.marked bare ?_
  rcases alike.simple_or_elements with ⟨left, right⟩ | ⟨ds, es, left, right, same⟩
  · rw [nested e right, nested d left, alike.spelling]
  · rw [bracketless e es right, bracketless d ds left, spell_tuple, spell_tuple, same]

theorem map_spell {parts : List (Descriptor × Descriptor)}
    (alike : ∀ p ∈ parts, SpelledAlike s p.1 p.2) :
    (parts.map Prod.snd).map s.spell = (parts.map Prod.fst).map s.spell := by
  rw [List.map_map, List.map_map]
  exact List.map_congr_left fun p member => (alike p member).spelling

theorem tuple {parts : List (Descriptor × Descriptor)}
    (alike : ∀ p ∈ parts, SpelledAlike s p.1 p.2) :
    SpelledAlike s (.tuple (parts.map Prod.fst)) (.tuple (parts.map Prod.snd)) := by
  have same := map_spell alike
  constructor
  · rw [spell_tuple, spell_tuple, same]
  · exact congrArg some same

theorem function {params : List (Param (Descriptor × Descriptor))} {ret out : Descriptor}
    (types : ∀ p ∈ params, SpelledAlike s p.type.1 p.type.2) (result : SpelledAlike s ret out) :
    SpelledAlike s (.function (params.map (Param.map Prod.fst)) ret)
      (.function (params.map (Param.map Prod.snd)) out) := by
  refine .of_simple rfl rfl ?_
  have prototypes :
      (params.map (Param.map Prod.snd)).map (fun p => s.prototype p (s.spell p.type)) =
        (params.map (Param.map Prod.fst)).map fun p => s.prototype p (s.spell p.type) := by
    rw [List.map_map, List.map_map]
    refine List.map_congr_left fun p member => ?_
    have spelling := (types p member).spelling
    simp only [Function.comp_apply, Param.map, spelling]
    rfl
  simp only [spell_func, body, result.spelling, prototypes, List.isEmpty_map]

theorem withGenerics (c : Category) {name : String} {parts : List (Descriptor × Descriptor)}
    (identifier : Identifier.IsName name) (alike : ∀ p ∈ parts, SpelledAlike s p.1 p.2) :
    SpelledAlike s ((Descriptor.named c name).withGenerics (parts.map Prod.fst))
      ((Descriptor.named c name).withGenerics (parts.map Prod.snd)) := by
  refine .of_simple rfl rfl ?_
  rw [spell_withGenerics _ c identifier, spell_withGenerics _ c identifier, map_spell alike,
    List.isEmpty_map, List.isEmpty_map]

/-- An alias is spelled as its target, and it has the elements of its target. -/
theorem behind (unmapped : s.sources = none) {name : String}
    (identifier : Identifier.IsName name) (alike : SpelledAlike s d e) :
    SpelledAlike s d (.aliasTo name e) := by
  refine ⟨(spell_aliasTo unmapped identifier e).trans alike.spelling, ?_⟩
  rw [Descriptor.resolve_aliasTo identifier]
  exact alike.elements

theorem withSpan (unmapped : s.sources = none) (alike : SpelledAlike s d e)
    (left right : Span) : SpelledAlike s (d.withSpan left) (e.withSpan right) := by
  constructor
  · rw [spell_withSpan unmapped, spell_withSpan unmapped, alike.spelling]
  · rw [Descriptor.resolve_withSpan, Descriptor.resolve_withSpan]
    exact alike.elements

theorem symm (alike : SpelledAlike s d e) : SpelledAlike s e d :=
  ⟨alike.spelling.symm, alike.elements.symm⟩

end SpelledAlike

/-- Aliased types are spelled alike. -/
theorem spelledAlike_of_aliased (unmapped : s.sources = none) {d e : Descriptor}
    (aliased : d.Aliased e) : SpelledAlike s d e := by
  induction aliased with
  | scalar c => exact ⟨rfl, rfl⟩
  | named c identifier => exact ⟨rfl, rfl⟩
  | @pointerTo d e target ih =>
      refine ih.marked (by decide) ?_
      have left := s.spell_pointerTo d
      have right := s.spell_pointerTo e
      rw [ih.spelling, ← left] at right
      exact right
  | arrayOf element ih =>
      exact ih.bracketed (by decide) (fun _ => s.spell_arrayOf)
        fun _ _ => s.spell_arrayOf_of_elements?
  | sliceOf element ih =>
      exact ih.bracketed (by decide) (fun _ => s.spell_sliceOf)
        fun _ _ => s.spell_sliceOf_of_elements?
  | map key value keyIh valueIh =>
      refine .of_simple rfl rfl ?_
      rw [s.spell_map key.opens.1, s.spell_map key.opens.2, keyIh.spelling, valueIh.spelling]
  | tuple elements ih => exact .tuple ih
  | function types result typesIh resultIh => exact .function typesIh resultIh
  | enumeration identifier underlying ih =>
      refine .of_simple rfl rfl ?_
      rw [s.spell_enumeration identifier, s.spell_enumeration identifier]
  | withGenerics c identifier arguments ih => exact .withGenerics c identifier ih
  | aliasTo identifier target ih =>
      exact ((ih.behind unmapped identifier).symm.behind unmapped identifier).symm
  | withSpan same left right ih => exact ih.withSpan unmapped left right
  | behind identifier same ih => exact ih.behind unmapped identifier

end Unmapped

/-- **Aliases are not spelled** without a source map, for every escaper and all templates:
aliases around any components of a type, at any depth, leave its spelling as it is. -/
theorem spell_aliased (s : Speller) (unmapped : s.sources = none) {d e : Descriptor}
    (aliased : d.Aliased e) : s.spell e = s.spell d :=
  (spelledAlike_of_aliased unmapped aliased).spelling

/-- A map of texts to pointers, with an alias of an alias in its key, and with aliases around
the pointer and in the arguments of the type that it points to. -/
theorem spell_aliased_map :
    ∃ d e, Descriptor.Aliased d e ∧
      e.signature = "[Key:Link]" ∧ (ofConfig .standard).spell e = (ofConfig .standard).spell d ∧
      (ofConfig .standard).spell d = "map<str_jnt,JNID(Vec)<u64_jnt>*>" := by
  have key : Identifier.IsName "Key" := by decide
  have text : Identifier.IsName "Text" := by decide
  have link : Identifier.IsName "Link" := by decide
  have arguments : ∀ p ∈ [(Descriptor.scalar .u64, Descriptor.aliasTo "Size" (.scalar .u64))],
      Descriptor.Aliased p.1 p.2 := by
    intro p member
    rw [List.mem_singleton.1 member]
    exact .behind (by decide) (.scalar .u64)
  have vec : Identifier.IsName "Vec" := by decide
  have aliased := Descriptor.Aliased.map
    (.behind key (.behind text (Descriptor.Constructed.scalar .str).aliased))
    (.behind link (.pointerTo (.withGenerics .struct vec arguments)))
  refine ⟨_, _, aliased, rfl, spell_aliased (ofConfig .standard) rfl aliased, ?_⟩
  rw [spell_map _ (Descriptor.Constructed.scalar .str).opens, spell_scalar _ rfl, spell_pointerTo,
    spell_withGenerics _ .struct vec, List.map_singleton, List.map_singleton, spell_scalar _ rfl]
  decide

end Speller

end BinarySolver
