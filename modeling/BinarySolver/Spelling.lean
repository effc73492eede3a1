/-
# BinarySolver.Spelling -- types as the emitted C++ program spells them

A type is resolved and then looked at from the outside in: `Descriptor.form` says
what its outermost shape is, and each shape has one spelling.  Pointers are told by
stars behind everything else.  Names are escaped, scoped by the file in which the
type stands if a source map knows it.
-/
import BinarySolver.Compatibility
import BinarySolver.Config

namespace BinarySolver

set_option autoImplicit false

/-- The outermost shape of a type, the pointers in front left out. -/
inductive Form where
  | tuple (elements : List Descriptor)
  | array (element : Descriptor)
  | slice (element : Descriptor)
  | map (key value : Descriptor)
  | generic (arguments : List Descriptor)
  | named
  | function (params : List (Param Descriptor)) (ret : Descriptor)
  | scalar

namespace Descriptor

/-- The form of a type that is no tuple and has no pointers in front. -/
def innerForm (d : Descriptor) : Form :=
  match d.signature.toList with
  | '[' :: ':' :: ']' :: rest => .slice { d with signature := String.ofList rest }
  | '[' :: ']' :: rest => .array { d with signature := String.ofList rest }
  | _ =>
    match d.payload, d.category with
    | .map key value, category => if d.isMap then .map key value else ofCategory category
    | .generics arguments, _ => .generic arguments
    | .func params ret, .fn => .function params ret
    | _, category => ofCategory category
where
  /-- The form of a type whose payload does not matter. -/
  ofCategory : Category → Form
    | .id | .enum | .struct | .trait => .named
    | _ => .scalar

def form (d : Descriptor) : Form :=
  match d.elements? with
  | some elements => .tuple elements
  | none => d.stripPointers.innerForm

end Descriptor

namespace Form

/-- All parts of a form, shapes being parts of one element. -/
def partsSize : Form → Nat
  | tuple elements => Descriptor.sizeList elements
  | array element => element.size
  | slice element => element.size
  | map key value => key.size + value.size
  | generic arguments => Descriptor.sizeList arguments
  | function params ret => Descriptor.sizeParams params + ret.size
  | named => 0
  | scalar => 0

end Form

namespace Descriptor

theorem partsSize_ofCategory (c : Category) : (innerForm.ofCategory c).partsSize = 0 := by
  cases c <;> rfl

theorem partsSize_innerForm_lt (d : Descriptor) : d.innerForm.partsSize < d.size := by
  have hp := sizePayload_lt d
  have hs := size_eq d
  unfold innerForm
  split
  · rename_i rest h
    simp only [Form.partsSize, size_eq, String.toList_ofList, h, List.length_cons] at *
    omega
  · rename_i rest h
    simp only [Form.partsSize, size_eq, String.toList_ofList, h, List.length_cons] at *
    omega
  · split
    · rename_i h
      simp only [h, sizePayload] at hp
      split
      · simpa [Form.partsSize] using hp
      · rw [partsSize_ofCategory]; omega
    · rename_i h
      simpa [h, sizePayload, Form.partsSize] using hp
    · rename_i h _
      simpa [h, sizePayload, Form.partsSize] using hp
    · rw [partsSize_ofCategory]; omega

theorem size_stripPointers_le (d : Descriptor) : d.stripPointers.size ≤ d.size := by
  have h : (d.signature.toList.dropWhile (· == '*')).length ≤ d.signature.toList.length :=
    (List.dropWhile_sublist _).length_le
  simp only [size_eq, stripPointers, String.toList_ofList]
  omega

/-- What a form is made of is smaller than the type it is the form of. -/
theorem partsSize_form_lt (d : Descriptor) : d.form.partsSize < d.size := by
  unfold form
  split
  · rename_i elements h
    exact sizeList_lt_of_elements? h
  · exact Nat.lt_of_lt_of_le (partsSize_innerForm_lt _) (size_stripPointers_le d)

end Descriptor

/-- What the spelling of types depends on. -/
structure Speller where
  templates : Templates
  escaper : Escaper
  sources : Option SourceMap

namespace Speller

/-- The usual names, and no source map. -/
def ofConfig (config : Config) : Speller :=
  { templates := config.templates, escaper := Identifier.emitted, sources := none }

def withSources (s : Speller) (sources : SourceMap) : Speller := { s with sources := some sources }

def withEscaper (s : Speller) (escaper : Escaper) : Speller := { s with escaper }

/-- The path of the file in which a span lies. -/
def file? (s : Speller) (span : Span) : Option String :=
  span.source.bind fun id => s.sources.bind fun m => m.path? id

/-- The name of a type: the identifier in its signature, escaped. -/
def nameOf (s : Speller) (d : Descriptor) : String :=
  s.escaper (Identifier.split d.signature).ident (s.file? d.span)

/-- A template and its arguments. -/
def applied (template : String) (arguments : List String) : String :=
  template ++ "<" ++ Text.joined "," arguments ++ ">"

/-- A parameter, `spelled` being the spelling of its type. -/
def prototype (s : Speller) (p : Param Descriptor) (spelled : String) : String :=
  let spelled := if p.variadic then applied s.templates.slice [spelled] else spelled
  if p.isConst then "const " ++ spelled else spelled

def stars (n : Nat) : String := String.ofList (List.replicate n '*')

def spell (s : Speller) (d : Descriptor) : String :=
  let t := d.resolve
  let body :=
    match _h : t.form with
    | .tuple elements =>
      applied s.templates.tuple (elements.attach.map fun ⟨e, _⟩ => s.spell e)
    | .array element => applied s.templates.array [s.spell element]
    | .slice element => applied s.templates.slice [s.spell element]
    | .map key value => applied s.templates.map [s.spell key, s.spell value]
    | .generic arguments =>
      if arguments.isEmpty then s.nameOf t
      else applied (s.nameOf t) (arguments.attach.map fun ⟨a, _⟩ => s.spell a)
    | .named => s.nameOf t
    | .function params ret =>
      let prototypes :=
        if params.isEmpty then "void"
        else Text.joined "," (params.attach.map fun ⟨p, _⟩ => s.prototype p (s.spell p.type))
      applied s.templates.func [s.spell ret ++ "(" ++ prototypes ++ ")"]
    | .scalar => t.category.spelling
  body ++ stars t.pointers
termination_by d.size
decreasing_by
  all_goals
    have hf := Descriptor.partsSize_form_lt d.resolve
    have hr := Descriptor.size_resolve_le d
    have he := @Descriptor.size_le_sizeList
    have hp := @Descriptor.size_le_sizeParams
    simp only [t] at _h
    simp only [_h, Form.partsSize] at hf
  · rename_i hm; have := he hm; omega
  · omega
  · omega
  · omega
  · omega
  · rename_i hm; have := he hm; omega
  · rename_i hm; have := hp hm; omega
  · omega

end Speller

end BinarySolver
