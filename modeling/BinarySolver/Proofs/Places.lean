/-
# BinarySolver.Proofs.Places -- the places that the spelling of a type looks at

`Descriptor.spans` lists the place of a type and those of all types in it, targets of
aliases included.  Resolving an alias brings in no place (`spans_resolve_subset`), and
neither does taking a form apart (`spans_subset_of_mem_form`).  So a spelling learns nothing
from a source map but the files of these places: **`Speller.spell_congr`**.
-/
import BinarySolver.Proofs.Shape

namespace BinarySolver

set_option autoImplicit false

namespace Descriptor

variable {d e : Descriptor}

/-! ## Places in a type -/

mutual

/-- The place of a type, and those of all types in it. -/
def spans : Descriptor → List Span
  | ⟨_, _, aliasOf, payload, _, span⟩ => span :: (spansOption aliasOf ++ spansPayload payload)

def spansOption : Option Descriptor → List Span
  | none => []
  | some d => spans d

def spansPayload : Payload Descriptor → List Span
  | .none => []
  | .map key value => spans key ++ spans value
  | .generics arguments => spansList arguments
  | .enum underlying => spans underlying
  | .func params ret => spansParams params ++ spans ret
  | .tuple elements => spansList elements

def spansList : List Descriptor → List Span
  | [] => []
  | d :: ds => spans d ++ spansList ds

def spansParams : List (Param Descriptor) → List Span
  | [] => []
  | ⟨_, type, _, _⟩ :: ps => spans type ++ spansParams ps

end

theorem spans_eq (d : Descriptor) :
    d.spans = d.span :: (spansOption d.aliasOf ++ spansPayload d.payload) := by
  cases d
  rw [spans]

theorem span_mem_spans (d : Descriptor) : d.span ∈ d.spans := by
  rw [spans_eq]
  exact .head _

theorem spans_subset_spansList {ds : List Descriptor} (member : d ∈ ds) :
    d.spans ⊆ spansList ds := by
  induction member with
  | head ds =>
      rw [spansList]
      exact List.subset_append_left _ _
  | tail e _ ih =>
      rw [spansList]
      exact List.subset_append_of_subset_right _ ih

theorem spans_subset_spansParams {p : Param Descriptor} {ps : List (Param Descriptor)}
    (member : p ∈ ps) : p.type.spans ⊆ spansParams ps := by
  induction member with
  | head ps =>
      rw [spansParams]
      exact List.subset_append_left _ _
  | tail q _ ih =>
      rw [spansParams]
      exact List.subset_append_of_subset_right _ ih

theorem spans_subset_of_mem_parts (member : e ∈ d.payload.parts) : e.spans ⊆ d.spans := by
  have inside : e.spans ⊆ spansPayload d.payload := by
    cases shape : d.payload with
    | none => simp [shape, Payload.parts] at member
    | map key value =>
        simp only [shape, Payload.parts, List.mem_cons, List.not_mem_nil, or_false] at member
        rw [spansPayload]
        rcases member with rfl | rfl
        · exact List.subset_append_left _ _
        · exact List.subset_append_right _ _
    | generics arguments | tuple elements =>
        rw [shape] at member
        rw [spansPayload]
        exact spans_subset_spansList member
    | enum underlying =>
        rw [shape] at member
        cases List.mem_singleton.1 member
        rw [spansPayload]
        exact List.Subset.refl _
    | func params ret =>
        rw [shape] at member
        rw [spansPayload]
        rcases List.mem_cons.1 member with rfl | member
        · exact List.subset_append_right _ _
        · obtain ⟨p, among, rfl⟩ := List.mem_map.1 member
          exact List.subset_append_of_subset_left _ (spans_subset_spansParams among)
  rw [spans_eq d]
  exact List.subset_cons_of_subset _ (List.subset_append_of_subset_right _ inside)

/-- A resolved type stands where the alias does, and is made of what its target is made of. -/
theorem spans_resolve_subset : ∀ d : Descriptor, d.resolve.spans ⊆ d.spans
  | ⟨_, _, some target, _, _, _⟩ => by
      have inner := spans_resolve_subset target
      rw [spans_eq] at inner
      have parts := List.Subset.trans (List.subset_cons_self _ _) inner
      rw [resolve, spans_eq, spans, spansOption]
      exact List.cons_subset_cons _ (List.subset_append_of_subset_left _ parts)
  | ⟨_, _, none, _, _, _⟩ => by
      rw [resolve]
      exact List.Subset.refl _

end Descriptor

/-! ## Parts of a form -/

/-- The types that a form is made of. -/
def Form.parts : Form → List Descriptor
  | tuple elements => elements
  | array element => [element]
  | slice element => [element]
  | map key value => [key, value]
  | generic arguments => arguments
  | named => []
  | function params ret => ret :: params.map Param.type
  | scalar => []

theorem Form.size_le_partsSize {f : Form} {e : Descriptor} (member : e ∈ f.parts) :
    e.size ≤ f.partsSize := by
  cases f with
  | tuple elements => exact Descriptor.size_le_sizeList member
  | generic arguments => exact Descriptor.size_le_sizeList member
  | array element | slice element => exact (List.mem_singleton.1 member) ▸ Nat.le_refl _
  | map key value =>
      simp only [parts, List.mem_cons, List.not_mem_nil, or_false] at member
      rcases member with rfl | rfl
      · exact Nat.le_add_right _ _
      · exact Nat.le_add_left _ _
  | function params ret =>
      rcases List.mem_cons.1 member with rfl | member
      · exact Nat.le_add_left _ _
      · obtain ⟨p, inside, rfl⟩ := List.mem_map.1 member
        exact Nat.le_add_right_of_le (Descriptor.size_le_sizeParams inside)
  | named | scalar => cases member

namespace Descriptor

variable {d e : Descriptor}

theorem size_lt_of_mem_form (member : e ∈ d.form.parts) : e.size < d.size :=
  Nat.lt_of_le_of_lt (Form.size_le_partsSize member) (partsSize_form_lt d)

theorem parts_ofCategory (c : Category) : (innerForm.ofCategory c).parts = [] := by
  cases c <;> rfl

theorem mem_parts_innerForm (member : e ∈ d.innerForm.parts) :
    (∃ signature, e = { d with signature }) ∨ e ∈ d.payload.parts := by
  unfold innerForm at member
  split at member
  · exact .inl ⟨_, List.mem_singleton.1 member⟩
  · exact .inl ⟨_, List.mem_singleton.1 member⟩
  · split at member
    · rename_i shape
      rw [shape]
      split at member
      · exact .inr member
      · rw [parts_ofCategory] at member
        cases member
    · rename_i shape
      rw [shape]
      exact .inr member
    · rename_i shape _
      rw [shape]
      exact .inr member
    · rw [parts_ofCategory] at member
      cases member

/-- A part of the form of a type is the type itself without something in front of its
signature, or a part of its payload. -/
theorem mem_parts_form (member : e ∈ d.form.parts) :
    (∃ signature, e = { d with signature }) ∨ e ∈ d.payload.parts := by
  unfold form at member
  split at member
  · rename_i elements shape
    unfold elements? at shape
    split at shape
    · rename_i payload
      split at shape
      · cases shape
        rw [payload]
        exact .inr member
      · cases shape
    · cases shape
  · exact mem_parts_innerForm (d := d.stripPointers) member

theorem spans_subset_of_mem_form (member : e ∈ d.form.parts) : e.spans ⊆ d.spans := by
  rcases mem_parts_form member with ⟨signature, rfl⟩ | inside
  · rw [spans_eq, spans_eq d]
    exact List.Subset.refl _
  · exact spans_subset_of_mem_parts inside

end Descriptor

/-! ## Spelling -/

namespace Speller

variable {s r : Speller}

theorem prototype_congr (templates : s.templates = r.templates) (p : Param Descriptor)
    (spelled : String) : s.prototype p spelled = r.prototype p spelled := by
  rw [prototype, prototype, templates]

/-- A form is spelled by the templates, the name of its type and its parts. -/
theorem body_congr {t : Descriptor} {f : Form} (templates : s.templates = r.templates)
    (name : s.nameOf t = r.nameOf t) (parts : ∀ e ∈ f.parts, s.spell e = r.spell e) :
    s.body t f = r.body t f := by
  cases f with
  | tuple elements =>
      have spelled : elements.map s.spell = elements.map r.spell := List.map_congr_left parts
      rw [body, body, templates, spelled]
  | array element | slice element => rw [body, body, templates, parts element (.head _)]
  | map key value =>
      rw [body, body, templates, parts key (.head _), parts value (.tail _ (.head _))]
  | generic arguments =>
      have spelled : arguments.map s.spell = arguments.map r.spell := List.map_congr_left parts
      rw [body, body, name, spelled]
  | named => exact name
  | function params ret =>
      have prototypes : params.map (fun p => s.prototype p (s.spell p.type)) =
          params.map fun p => r.prototype p (r.spell p.type) := by
        refine List.map_congr_left fun p member => ?_
        rw [prototype_congr templates, parts p.type (.tail _ (List.mem_map_of_mem member))]
      simp only [body, templates, prototypes, parts ret (.head _)]
  | scalar => rfl

/-- Spellers that put the places in a type into the same files spell it alike. -/
theorem spell_congr {d : Descriptor} (templates : s.templates = r.templates)
    (escaper : s.escaper = r.escaper) (files : ∀ span ∈ d.spans, s.file? span = r.file? span) :
    s.spell d = r.spell d := by
  have resolved := Descriptor.spans_resolve_subset d
  have name : s.nameOf d.resolve = r.nameOf d.resolve := by
    rw [nameOf, nameOf, escaper, files _ (resolved (Descriptor.span_mem_spans d.resolve))]
  rw [spell_eq, spell_eq, body_congr templates name fun e member => ?_]
  have smaller : e.size < d.size :=
    Nat.lt_of_lt_of_le (Descriptor.size_lt_of_mem_form member) (Descriptor.size_resolve_le d)
  have inside := List.Subset.trans (Descriptor.spans_subset_of_mem_form member) resolved
  exact spell_congr templates escaper fun span place => files span (inside place)
termination_by d.size

end Speller

end BinarySolver
