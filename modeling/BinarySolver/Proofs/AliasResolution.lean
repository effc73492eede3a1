/-
# BinarySolver.Proofs.AliasResolution -- resolving under markers and along chains

A type is wrapped in shapes one by one (`Descriptor.wrap`), and the shapes together are one
marker.  So resolving goes through any number of them (`resolve_wrap`), and what it leaves is
what stands at the end of the chain of aliases (`Descriptor.chainEnd`) but for the signature
and the place.  `Unaliased` follows the aliases of a type one by one, through the shapes that
stand before and between them; as their names are identifiers, nothing is left of them but the
place of the first: **`Unaliased.resolve_eq`**.
-/
import BinarySolver.Proofs.DeclaringFile

namespace BinarySolver

set_option autoImplicit false

/-! ## Shapes -/

/-- What a type can be wrapped in. -/
inductive Shape where
  | pointer
  | array
  | slice
deriving DecidableEq

namespace Shape

def marker : Shape → String
  | pointer => "*"
  | array => "[]"
  | slice => "[:]"

/-- A type in a shape. -/
def around (d : Descriptor) : Shape → Descriptor
  | pointer => d.pointerTo
  | array => d.arrayOf
  | slice => d.sliceOf

theorem around_eq_marked (d : Descriptor) (shape : Shape) :
    shape.around d = d.marked shape.marker := by
  cases shape <;> rfl

theorem isMarker_marker (shape : Shape) : Identifier.IsMarker shape.marker := by
  cases shape <;> decide

end Shape

namespace Descriptor

variable {d t u : Descriptor}

/-- A type in shapes, the outermost of which is the first. -/
def wrap (shapes : List Shape) (d : Descriptor) : Descriptor :=
  shapes.foldr (fun shape inner => shape.around inner) d

theorem wrap_cons (shape : Shape) (shapes : List Shape) (d : Descriptor) :
    d.wrap (shape :: shapes) = (d.wrap shapes).marked shape.marker :=
  shape.around_eq_marked _

/-- Shapes are put before the signature and change nothing else. -/
theorem wrap_eq (shapes : List Shape) (d : Descriptor) :
    d.wrap shapes = { d with signature := (d.wrap shapes).signature } := by
  induction shapes with
  | nil =>
      cases d
      rfl
  | cons shape shapes ih => rw [wrap_cons, marked, ih]

theorem withSpan_wrap (shapes : List Shape) (d : Descriptor) (span : Span) :
    (d.withSpan span).wrap shapes = (d.wrap shapes).withSpan span := by
  induction shapes with
  | nil => rfl
  | cons shape shapes ih =>
      rw [wrap_cons, wrap_cons, ih]
      rfl

/-! ## Resolving -/

/-- Resolving goes through all shapes. -/
theorem resolve_wrap (shapes : List Shape) (d : Descriptor) :
    (d.wrap shapes).resolve = d.resolve.wrap shapes := by
  induction shapes with
  | nil => rfl
  | cons shape shapes ih =>
      rw [wrap_cons, wrap_cons, resolve_marked shape.isMarker_marker, ih]

/-- The end of the chain of aliases that begins with a type. -/
def chainEnd (d : Descriptor) : Descriptor :=
  match d with
  | ⟨_, _, some target, _, _, _⟩ => chainEnd target
  | ⟨category, signature, none, payload, multi, span⟩ =>
    ⟨category, signature, none, payload, multi, span⟩

/-- A resolved type is the end of the chain under another signature, at the place of the
type that was resolved. -/
theorem resolve_eq_chainEnd (d : Descriptor) :
    d.resolve = { d.chainEnd with signature := d.resolve.signature, span := d.span } := by
  fun_induction chainEnd d with
  | case1 _ _ target _ _ _ ih =>
      rw [resolve, ih]
  | case2 => rfl

/-- Around shapes do not change that: they are in the signature as well. -/
theorem resolve_wrap_eq_chainEnd (shapes : List Shape) (d : Descriptor) :
    (d.wrap shapes).resolve =
      { d.chainEnd with signature := (d.wrap shapes).resolve.signature, span := d.span } := by
  have shaped := wrap_eq shapes d.resolve
  rw [← resolve_wrap] at shaped
  rw [shaped, resolve_eq_chainEnd d]

/-! ## Following aliases -/

/-- `d.Unaliased u`: `u` is `d` with the aliases that `d` begins with followed, none or more,
each of which has an identifier for a name.  Shapes around an alias stay around what it is
another name for. -/
inductive Unaliased : Descriptor → Descriptor → Prop
  | self (d : Descriptor) : Unaliased d d
  | follow {a t u : Descriptor} (shapes : List Shape) (names : a.aliasOf = some t)
      (identifier : Identifier.IsName a.signature) (rest : Unaliased (t.wrap shapes) u) :
      Unaliased (a.wrap shapes) u

/-- Of the aliases that are followed only the place of the first is left. -/
theorem Unaliased.resolve_eq (unaliased : d.Unaliased u) :
    d.resolve = u.resolve.withSpan d.span := by
  induction unaliased with
  | self d =>
      rw [resolve_eq_chainEnd]
      rfl
  | @follow a t u shapes names identifier rest ih =>
      have outermost : (a.wrap shapes).span = a.span := by rw [wrap_eq]
      rw [resolve_wrap, resolve_of_isName names identifier, withSpan_wrap, ← resolve_wrap, ih,
        outermost]
      rfl

end Descriptor

end BinarySolver
