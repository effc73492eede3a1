/-
# BinarySolver.Proofs.Nesting -- the spelling of a shape around a type

Shapes are not kept as a tree: pointers, arrays and slices are markers in front of a
signature whose category and payload are those of the innermost type.  `spell_shapes`
says when the spelling is a tree all the same, built from the spellings of the parts.
Pointers, maps and tuples nest around every type.  Arrays and slices nest around every
type but one: a tuple is spelled by its elements and its leading pointers, whatever
stands between, so that an array of tuples is spelled as the tuple.
-/
import BinarySolver.Proofs.Shape

namespace BinarySolver

set_option autoImplicit false

namespace Identifier

/-- A text that is one identifier. -/
def IsName (text : String) : Prop :=
  ∃ c cs, text.toList = c :: cs ∧ isStart c = true ∧ ∀ d ∈ cs, isPart d = true

end Identifier

namespace Descriptor

/-! ## Types that are built -/

/-- The types that the constructors build, names being identifiers. -/
inductive Constructed : Descriptor → Prop
  | scalar (c : Category) : Constructed (.scalar c)
  | named (c : Category) {name : String} (identifier : Identifier.IsName name) :
      Constructed (.named c name)
  | pointerTo {d : Descriptor} (built : Constructed d) : Constructed d.pointerTo
  | arrayOf {d : Descriptor} (built : Constructed d) : Constructed d.arrayOf
  | sliceOf {d : Descriptor} (built : Constructed d) : Constructed d.sliceOf
  | map {k v : Descriptor} (key : Constructed k) (value : Constructed v) :
      Constructed (.map k v)
  | tuple {ds : List Descriptor} (elements : ∀ d ∈ ds, Constructed d) : Constructed (.tuple ds)
  | function {params : List (Param Descriptor)} {ret : Descriptor}
      (types : ∀ p ∈ params, Constructed p.type) (result : Constructed ret) :
      Constructed (.function params ret)
  | enumeration {name : String} {d : Descriptor} (identifier : Identifier.IsName name)
      (underlying : Constructed d) : Constructed (.enumeration name d)
  | aliasTo {name : String} {d : Descriptor} (identifier : Identifier.IsName name)
      (target : Constructed d) : Constructed (.aliasTo name d)
  | withGenerics (c : Category) {name : String} {ds : List Descriptor}
      (identifier : Identifier.IsName name) (arguments : ∀ d ∈ ds, Constructed d) :
      Constructed ((Descriptor.named c name).withGenerics ds)

/-- A text that begins with neither a separator nor a closing bracket. -/
def Opens : List Char → Prop
  | [] => False
  | c :: _ => c ≠ ':' ∧ c ≠ ']'

instance : (text : List Char) → Decidable (Opens text)
  | [] => inferInstanceAs (Decidable False)
  | c :: _ => inferInstanceAs (Decidable (c ≠ ':' ∧ c ≠ ']'))

theorem Opens.append {text : List Char} (opens : Opens text) (rest : List Char) :
    Opens (text ++ rest) := by
  cases text with
  | nil => exact opens.elim
  | cons => exact opens

theorem opens_of_isName {name : String} (identifier : Identifier.IsName name) :
    Opens name.toList := by
  obtain ⟨c, cs, front, start, -⟩ := identifier
  rw [front]
  constructor
  · rintro rfl
    revert start
    decide
  · rintro rfl
    revert start
    decide

theorem opens_signature_function (params : List (Param Descriptor)) (ret : Descriptor) :
    Opens (function params ret).signature.toList := by
  simp only [function, functionSignature, named, String.toList_append, String.append_assoc]
  exact Opens.append (by decide) _

theorem opens_signature_withGenerics {d : Descriptor} (opens : Opens d.signature.toList)
    (ds : List Descriptor) : Opens (d.withGenerics ds).signature.toList := by
  unfold withGenerics
  split
  · exact opens
  · simp only [String.toList_append, List.append_assoc]
    exact opens.append _

theorem opens_signature_marked {marker : String} (opens : Opens marker.toList) (d : Descriptor) :
    Opens (d.marked marker).signature.toList := by
  rw [toList_signature_marked]
  exact opens.append _

/-- No type that is built has a signature that could be taken for the rest of a marker. -/
theorem Constructed.opens {d : Descriptor} (built : d.Constructed) :
    Opens d.signature.toList := by
  cases built with
  | scalar c => cases c <;> decide
  | named c identifier => exact opens_of_isName identifier
  | pointerTo | arrayOf | sliceOf => exact opens_signature_marked (by decide) _
  | map =>
      rw [toList_signature_map]
      constructor <;> decide
  | tuple =>
      rw [toList_signature_tuple]
      constructor <;> decide
  | function => exact opens_signature_function ..
  | enumeration identifier => exact opens_of_isName identifier
  | aliasTo identifier => exact opens_of_isName identifier
  | withGenerics c identifier => exact opens_signature_withGenerics (opens_of_isName identifier) _

/-! ## Forms -/

theorem form_scalar (c : Category) : (scalar c).form = innerForm.ofCategory c := by
  cases c <;> rfl

theorem pointers_scalar (c : Category) : (scalar c).pointers = 0 := by
  cases c <;> rfl

theorem form_tuple (ds : List Descriptor) : (tuple ds).form = .tuple ds := rfl

/-- The bracket of a map is no marker, for its key does not go on with one. -/
theorem isArray_map {k : Descriptor} (opens : Opens k.signature.toList) (v : Descriptor) :
    (map k v).isArray = false ∧ (map k v).isSlice = false := by
  cases key : k.signature.toList with
  | nil =>
      rw [key] at opens
      exact opens.elim
  | cons c cs =>
      rw [key] at opens
      obtain ⟨separates, closes⟩ := opens
      simp [isArray, isSlice, toList_signature_map, key, List.isPrefixOf, separates.symm,
        closes.symm]

/-- A map is known by its key, which does not close the bracket in front of it. -/
theorem form_map {k : Descriptor} (opens : Opens k.signature.toList) (v : Descriptor) :
    (map k v).form = .map k v := by
  obtain ⟨array, slice⟩ := isArray_map opens v
  have front := toList_signature_map k v
  have shown : (map k v).isMap = true := by
    have category : (map k v).category = .map := rfl
    simp [isMap, array, slice, startsWith, front, category]
  have simple : (map k v).elements? = none := rfl
  have payload : (map k v).payload = .map k v := rfl
  rw [form_of_elements?_eq_none simple, stripPointers_eq_self front (by decide), innerForm]
  split
  · rename_i marked
    rw [isSlice, marked] at slice
    cases slice
  · rename_i marked
    rw [isArray, marked] at array
    cases array
  · simp only [payload, shown, if_true]

end Descriptor

namespace Speller

variable (s : Speller)

theorem nameOf_marked {marker : String} (bare : Identifier.IsMarker marker) (d : Descriptor) :
    s.nameOf (d.marked marker) = s.nameOf d := by
  simp only [nameOf, Descriptor.marked, Identifier.split_append_of_isMarker bare]

theorem body_pointerTo (d : Descriptor) (f : Form) : s.body d.pointerTo f = s.body d f := by
  have name : s.nameOf d.pointerTo = s.nameOf d := s.nameOf_marked (by decide) d
  cases f <;> simp only [body, name]
  rfl

theorem stars_succ (n : Nat) : stars (n + 1) = stars n ++ "*" := by
  simp [stars, List.replicate_succ']

theorem spell_resolve (d : Descriptor) : s.spell d.resolve = s.spell d := by
  rw [spell_eq, spell_eq, Descriptor.resolve_resolve]

/-! ## Shapes -/

theorem spell_pointerTo (d : Descriptor) : s.spell d.pointerTo = s.spell d ++ "*" := by
  rw [spell_eq, spell_eq, Descriptor.resolve_pointerTo, Descriptor.form_pointerTo, body_pointerTo,
    Descriptor.pointers_pointerTo, stars_succ, String.append_assoc]

theorem spell_scalar {c : Category} (unnamed : Descriptor.innerForm.ofCategory c = .scalar) :
    s.spell (.scalar c) = c.spelling := by
  have resolved : (Descriptor.scalar c).resolve = .scalar c := Descriptor.resolve_of_aliasOf rfl
  rw [spell_eq, resolved, Descriptor.form_scalar, unnamed, body, Descriptor.pointers_scalar]
  exact String.append_empty

/-- A type with no pointer in front is spelled by its form alone. -/
theorem spell_of_front {d : Descriptor} {c : Char} {rest : List Char}
    (front : d.resolve.signature.toList = c :: rest) (other : c ≠ '*') :
    s.spell d = s.body d.resolve d.resolve.form := by
  rw [spell_eq, Descriptor.pointers_eq_zero front other]
  exact String.append_empty

theorem spell_arrayOf {d : Descriptor} (simple : d.resolve.elements? = none) :
    s.spell d.arrayOf = applied s.templates.array [s.spell d] := by
  have resolved := Descriptor.resolve_arrayOf d
  have front : d.arrayOf.resolve.signature.toList = '[' :: ']' :: d.resolve.signature.toList := by
    rw [resolved]
    exact Descriptor.toList_signature_marked "[]" _
  rw [s.spell_of_front front (by decide), resolved, Descriptor.form_arrayOf simple, body,
    spell_resolve]

theorem spell_sliceOf {d : Descriptor} (simple : d.resolve.elements? = none) :
    s.spell d.sliceOf = applied s.templates.slice [s.spell d] := by
  have resolved := Descriptor.resolve_sliceOf d
  have front : d.sliceOf.resolve.signature.toList =
      '[' :: ':' :: ']' :: d.resolve.signature.toList := by
    rw [resolved]
    exact Descriptor.toList_signature_marked "[:]" _
  rw [s.spell_of_front front (by decide), resolved, Descriptor.form_sliceOf simple, body,
    spell_resolve]

theorem spell_map {k : Descriptor} (opens : Descriptor.Opens k.signature.toList) (v : Descriptor) :
    s.spell (.map k v) = applied s.templates.map [s.spell k, s.spell v] := by
  have resolved : (Descriptor.map k v).resolve = .map k v := Descriptor.resolve_of_aliasOf rfl
  have front := Descriptor.toList_signature_map k v
  rw [← resolved] at front
  rw [s.spell_of_front front (by decide), resolved, Descriptor.form_map opens, body]

theorem spell_tuple (ds : List Descriptor) :
    s.spell (.tuple ds) = applied s.templates.tuple (ds.map s.spell) := by
  have resolved : (Descriptor.tuple ds).resolve = .tuple ds := Descriptor.resolve_of_aliasOf rfl
  have front := Descriptor.toList_signature_tuple ds
  rw [← resolved] at front
  rw [s.spell_of_front front (by decide), resolved, Descriptor.form_tuple, body]

/-! ## Tuples behind markers -/

/-- A tuple behind markers is spelled by its elements and its leading pointers. -/
theorem spell_of_elements? {d : Descriptor} {ds : List Descriptor}
    (elements : d.resolve.elements? = some ds) :
    s.spell d = applied s.templates.tuple (ds.map s.spell) ++ stars d.resolve.pointers := by
  rw [spell_eq, Descriptor.form_of_elements? elements, body]

/-- Nothing is told of a marker that is no pointer. -/
theorem spell_marked_of_elements? {d : Descriptor} {ds : List Descriptor} {marker : String}
    {c : Char} {rest : List Char} (bare : Identifier.IsMarker marker)
    (front : marker.toList = c :: rest) (other : c ≠ '*')
    (elements : d.resolve.elements? = some ds) :
    s.spell (d.marked marker) = s.spell (.tuple ds) := by
  have resolved := Descriptor.resolve_marked bare d
  have first : (d.marked marker).resolve.signature.toList =
      c :: (rest ++ d.resolve.signature.toList) := by
    rw [resolved, Descriptor.toList_signature_marked, front]
    rfl
  have same : (d.marked marker).resolve.elements? = some ds := by
    rw [resolved]
    exact elements
  rw [s.spell_of_front first other, Descriptor.form_of_elements? same, body, s.spell_tuple]

theorem spell_arrayOf_of_elements? {d : Descriptor} {ds : List Descriptor}
    (elements : d.resolve.elements? = some ds) : s.spell d.arrayOf = s.spell (.tuple ds) :=
  s.spell_marked_of_elements? (by decide) rfl (by decide) elements

theorem spell_sliceOf_of_elements? {d : Descriptor} {ds : List Descriptor}
    (elements : d.resolve.elements? = some ds) : s.spell d.sliceOf = s.spell (.tuple ds) :=
  s.spell_marked_of_elements? (by decide) rfl (by decide) elements

theorem length_applied (template : String) (arguments : List String) :
    (applied template arguments).length =
      template.length + (Text.joined "," arguments).length + 2 := by
  have brackets : "<".length = 1 ∧ ">".length = 1 := by decide
  simp only [applied, String.length_append, brackets]
  omega

/-- A template around a text is longer than the text. -/
theorem length_lt_applied (template text : String) :
    text.length < (applied template [text]).length := by
  rw [length_applied, Text.joined]
  omega

/-- What is spelled as a tuple has no template around its spelling. -/
theorem spell_tuple_ne_applied {d : Descriptor} {ds : List Descriptor}
    (elements : d.resolve.elements? = some ds) (template : String) :
    s.spell (.tuple ds) ≠ applied template [s.spell d] := by
  intro same
  have longer := length_lt_applied template (s.spell d)
  rw [← same, s.spell_of_elements? elements, s.spell_tuple, String.length_append] at longer
  omega

/-- **The spelling of shapes around a type**, for every speller.  A pointer is told by a
star behind; an array and a slice are told by their template around the type exactly if
the type, behind its aliases and markers, is no tuple; a map and a tuple are told by
their templates around all their parts.  A tuple in an array or a slice is spelled as
the tuple alone. -/
theorem spell_shapes (s : Speller) :
    (∀ t, s.spell (.pointerTo t) = s.spell t ++ "*") ∧
      (∀ t, s.spell (.arrayOf t) = applied s.templates.array [s.spell t] ↔
        t.resolve.elements? = none) ∧
      (∀ t, s.spell (.sliceOf t) = applied s.templates.slice [s.spell t] ↔
        t.resolve.elements? = none) ∧
      (∀ k v, k.Constructed →
        s.spell (.map k v) = applied s.templates.map [s.spell k, s.spell v]) ∧
      (∀ ts, s.spell (.tuple ts) = applied s.templates.tuple (ts.map s.spell)) ∧
      (∀ t ts, t.resolve.elements? = some ts →
        s.spell (.arrayOf t) = s.spell (.tuple ts) ∧
          s.spell (.sliceOf t) = s.spell (.tuple ts)) := by
  refine ⟨s.spell_pointerTo, ?_, ?_, ?_, s.spell_tuple, ?_⟩
  · intro t
    constructor
    · intro nested
      cases elements : t.resolve.elements? with
      | none => rfl
      | some ts =>
          rw [s.spell_arrayOf_of_elements? elements] at nested
          exact absurd nested (s.spell_tuple_ne_applied elements _)
    · exact s.spell_arrayOf
  · intro t
    constructor
    · intro nested
      cases elements : t.resolve.elements? with
      | none => rfl
      | some ts =>
          rw [s.spell_sliceOf_of_elements? elements] at nested
          exact absurd nested (s.spell_tuple_ne_applied elements _)
    · exact s.spell_sliceOf
  · intro k v built
    exact s.spell_map built.opens v
  · intro t ts elements
    exact ⟨s.spell_arrayOf_of_elements? elements, s.spell_sliceOf_of_elements? elements⟩

/-- A map whose key is a tuple, and an array of an alias of that tuple. -/
theorem spell_shapes_of_pair :
    (Descriptor.tuple [.scalar .i32, .bool]).Constructed ∧
      (ofConfig .standard).spell (.map (.tuple [.scalar .i32, .bool]) (.scalar .str)) =
        "map<std::tuple<i32_jnt,bool>,str_jnt>" ∧
      (Descriptor.aliasTo "Pair" (.tuple [.scalar .i32, .bool])).resolve.elements? =
        some [.scalar .i32, .bool] ∧
      (ofConfig .standard).spell (.arrayOf (.aliasTo "Pair" (.tuple [.scalar .i32, .bool]))) =
        "std::tuple<i32_jnt,bool>" := by
  obtain ⟨-, -, -, maps, -, tuples⟩ := spell_shapes (ofConfig .standard)
  have built : (Descriptor.tuple [.scalar .i32, .bool]).Constructed := by
    refine .tuple fun d member => ?_
    rcases List.mem_cons.1 member with rfl | member
    · exact .scalar .i32
    · rw [List.mem_singleton] at member
      subst member
      exact .scalar .bool
  have elements : (Descriptor.aliasTo "Pair" (.tuple [.scalar .i32, .bool])).resolve.elements? =
      some [.scalar .i32, .bool] := rfl
  have pair : (ofConfig .standard).spell (.tuple [.scalar .i32, .bool]) =
      "std::tuple<i32_jnt,bool>" := by
    rw [spell_tuple, List.map_cons, List.map_cons, spell_scalar _ rfl, Descriptor.bool,
      spell_scalar _ rfl]
    decide
  refine ⟨built, ?_, elements, (tuples _ _ elements).1.trans pair⟩
  rw [maps _ _ built, pair, spell_scalar _ rfl]
  decide

/-- An array of tuples loses its array. -/
theorem spell_array_of_tuple :
    (ofConfig .standard).spell (.arrayOf (.tuple [.scalar .i32])) = "std::tuple<i32_jnt>" ∧
      (ofConfig .standard).spell (.arrayOf (.tuple [.scalar .i32])) ≠
        applied (ofConfig .standard).templates.array
          [(ofConfig .standard).spell (.tuple [.scalar .i32])] := by
  have tuple : (ofConfig .standard).spell (.tuple [.scalar .i32]) = "std::tuple<i32_jnt>" := by
    rw [spell_tuple, List.map_cons, spell_scalar _ rfl]
    decide
  have array : (ofConfig .standard).spell (.arrayOf (.tuple [.scalar .i32])) =
      "std::tuple<i32_jnt>" :=
    (spell_arrayOf_of_elements? (ofConfig .standard) rfl).trans tuple
  rw [array, tuple]
  exact ⟨rfl, by decide⟩

end Speller

end BinarySolver
