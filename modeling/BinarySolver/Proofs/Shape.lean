/-
# BinarySolver.Proofs.Shape -- markers in front of types

A marker changes the signature of a type and nothing else.  It holds no start of an
identifier, so an alias behind it resolves to its target behind the same marker
(`resolve_marked`), and the name in the signature stays the name.
-/
import BinarySolver.Proofs.Settle
import BinarySolver.Spelling

namespace BinarySolver

set_option autoImplicit false

namespace Identifier

/-- A text in which no identifier starts. -/
def IsMarker (text : String) : Prop := ∀ c ∈ text.toList, isStart c = false

instance (text : String) : Decidable (IsMarker text) :=
  List.decidableBAll (fun c => isStart c = false) text.toList

variable {marker : String}

/-- A marker in front belongs to the markers, and the cut behind them stays. -/
theorem split_append_of_isMarker (bare : IsMarker marker) (text : String) :
    split (marker ++ text) = { split text with markers := marker ++ (split text).markers } := by
  have skipped : ∀ c ∈ marker.toList, (!isStart c) = true := by
    intro c member
    rw [bare c member]
    rfl
  have markers : (marker ++ text).toList.takeWhile (fun c => !isStart c) =
      marker.toList ++ text.toList.takeWhile fun c => !isStart c := by
    rw [String.toList_append, List.takeWhile_append_of_pos skipped]
  have tail : (marker ++ text).toList.dropWhile (fun c => !isStart c) =
      text.toList.dropWhile fun c => !isStart c := by
    rw [String.toList_append, List.dropWhile_append_of_pos skipped]
  simp only [split, markers, tail, String.ofList_append, String.ofList_toList]

end Identifier

/-- The types that a type is made of. -/
def Payload.parts {δ : Type} : Payload δ → List δ
  | none => []
  | map key value => [key, value]
  | generics arguments => arguments
  | enum underlying => [underlying]
  | func params ret => ret :: params.map Param.type
  | tuple elements => elements

namespace Descriptor

variable {d : Descriptor} {marker : String}

/-! ## Markers -/

theorem resolve_marked (bare : Identifier.IsMarker marker) (d : Descriptor) :
    (d.marked marker).resolve = d.resolve.marked marker := by
  obtain ⟨category, signature, aliasOf, payload, multi, span⟩ := d
  cases aliasOf with
  | none => simp only [marked, resolve]
  | some target =>
      simp only [marked, resolve, Identifier.split_append_of_isMarker bare, String.append_assoc]

theorem resolve_pointerTo (d : Descriptor) : d.pointerTo.resolve = d.resolve.pointerTo :=
  resolve_marked (by decide) d

theorem resolve_arrayOf (d : Descriptor) : d.arrayOf.resolve = d.resolve.arrayOf :=
  resolve_marked (by decide) d

theorem resolve_sliceOf (d : Descriptor) : d.sliceOf.resolve = d.resolve.sliceOf :=
  resolve_marked (by decide) d

/-- Without its marker a type is itself again. -/
theorem with_signature_marked (d : Descriptor) (marker : String) :
    { d.marked marker with signature := d.signature } = d := by
  cases d
  rfl

theorem toList_signature_marked (marker : String) (d : Descriptor) :
    (d.marked marker).signature.toList = marker.toList ++ d.signature.toList :=
  String.toList_append

theorem toList_signature_map (key value : Descriptor) :
    (map key value).signature.toList =
      '[' :: key.signature.toList ++ ':' :: value.signature.toList ++ [']'] := by
  simp [map, named]

theorem toList_signature_tuple (ds : List Descriptor) :
    (tuple ds).signature.toList = '(' :: (signatureList ds).toList ++ [')'] := by
  simp [tuple, named]

theorem pointers_pointerTo (d : Descriptor) : d.pointerTo.pointers = d.pointers + 1 := by
  rw [pointers, pointerTo, toList_signature_marked]
  simp [pointers]

theorem stripPointers_pointerTo (d : Descriptor) :
    d.pointerTo.stripPointers = d.stripPointers := by
  simp [stripPointers, pointerTo, marked]

/-- Behind a bracket there is no pointer in front. -/
theorem pointers_eq_zero {rest : List Char} {c : Char} (front : d.signature.toList = c :: rest)
    (other : c ≠ '*') : d.pointers = 0 := by
  simp [pointers, front, other]

theorem stripPointers_eq_self {rest : List Char} {c : Char}
    (front : d.signature.toList = c :: rest) (other : c ≠ '*') : d.stripPointers = d := by
  have kept : d.signature.toList.dropWhile (· == '*') = d.signature.toList := by
    simp [front, other]
  rw [stripPointers, kept, String.ofList_toList]
  exact with_signature_marked d ""

/-! ## Forms -/

theorem form_pointerTo (d : Descriptor) : d.pointerTo.form = d.form := by
  rw [form, form, stripPointers_pointerTo]
  rfl

theorem form_of_elements? {ds : List Descriptor} (elements : d.elements? = some ds) :
    d.form = .tuple ds := by
  rw [form, elements]

theorem form_of_elements?_eq_none (simple : d.elements? = none) :
    d.form = d.stripPointers.innerForm := by
  rw [form, simple]

theorem form_arrayOf (simple : d.elements? = none) : d.arrayOf.form = .array d := by
  have front : d.arrayOf.signature.toList = '[' :: ']' :: d.signature.toList :=
    toList_signature_marked "[]" d
  have other : d.arrayOf.elements? = none := simple
  rw [form_of_elements?_eq_none other, stripPointers_eq_self front (by decide), innerForm, front]
  simp only [String.ofList_toList]
  exact congrArg Form.array (with_signature_marked d "[]")

theorem form_sliceOf (simple : d.elements? = none) : d.sliceOf.form = .slice d := by
  have front : d.sliceOf.signature.toList = '[' :: ':' :: ']' :: d.signature.toList :=
    toList_signature_marked "[:]" d
  have other : d.sliceOf.elements? = none := simple
  rw [form_of_elements?_eq_none other, stripPointers_eq_self front (by decide), innerForm, front]
  simp only [String.ofList_toList]
  exact congrArg Form.slice (with_signature_marked d "[:]")

end Descriptor

namespace Speller

variable (s : Speller)

/-- The spelling of a resolved type of some form, its pointers left out. -/
def body (t : Descriptor) : Form → String
  | .tuple elements => applied s.templates.tuple (elements.map s.spell)
  | .array element => applied s.templates.array [s.spell element]
  | .slice element => applied s.templates.slice [s.spell element]
  | .map key value => applied s.templates.map [s.spell key, s.spell value]
  | .generic arguments =>
    if arguments.isEmpty then s.nameOf t
    else applied (s.nameOf t) (arguments.map s.spell)
  | .named => s.nameOf t
  | .function params ret =>
    let prototypes :=
      if params.isEmpty then "void"
      else Text.joined "," (params.map fun p => s.prototype p (s.spell p.type))
    applied s.templates.func [s.spell ret ++ "(" ++ prototypes ++ ")"]
  | .scalar => t.category.spelling

/-- A type is spelled by its form, its pointers behind. -/
theorem spell_eq (d : Descriptor) :
    s.spell d = s.body d.resolve d.resolve.form ++ stars d.resolve.pointers := by
  rw [spell]
  congr 1
  split <;> rename_i shape <;> simp [shape, body]

end Speller
end BinarySolver
