/-
# BinarySolver.Compatibility -- which types may meet in an operation

Types meet by structure: after their aliases are resolved they have one category
and one signature.  `any` meets everything unless it is told not to, `nil` meets
what can be nil, `voidptr` meets every pointer where assignment is allowed, and
tuples meet element by element.
-/
import BinarySolver.Descriptor.Alias

namespace BinarySolver

set_option autoImplicit false

/-- How lenient a comparison of types is. -/
structure Leniency where
  /-- `any` has no special place. -/
  ignoreAny : Bool
  /-- A `voidptr` takes any pointer. -/
  allowAssign : Bool
deriving DecidableEq

/-- Decides whether two types may meet. -/
abbrev Compatibility := Leniency → Descriptor → Descriptor → Bool

namespace Descriptor

/-- The types of which nil is a value. -/
def isNullable (d : Descriptor) : Bool :=
  d.isNil || d.isPointer || d.isSlice || d.isMap || d.isFunc || d.isTrait || d.isAny

theorem sizeList_lt_of_elements? {d : Descriptor} {ds : List Descriptor}
    (h : d.elements? = some ds) : sizeList ds < d.size := by
  have hd := sizePayload_lt d
  unfold elements? at h
  split at h
  · rename_i es hp
    split at h
    · simp only [Option.some.injEq] at h
      subst h
      simpa [hp, sizePayload] using hd
    · simp at h
  · simp at h

theorem size_lt_of_mem_elements? {d e : Descriptor} {ds : List Descriptor}
    (h : d.elements? = some ds) (he : e ∈ ds) : e.size < d.size :=
  Nat.lt_of_le_of_lt (size_le_sizeList he) (sizeList_lt_of_elements? h)

end Descriptor

/-- The comparison by structure.  Of tuples only the pointers in front are compared
besides the elements. -/
def structural (mode : Leniency) (left right : Descriptor) : Bool :=
  let l := left.resolve
  let r := right.resolve
  if !mode.ignoreAny && (l.isAny || r.isAny) then true
  else if l.isNil then r.isNullable
  else if r.isNil then l.isNullable
  else if mode.allowAssign && ((l.isVoidptr && r.isPointer) || (r.isVoidptr && l.isPointer)) then
    true
  else if l.multi || r.multi then
    match _hl : l.elements?, r.elements? with
    | some ls, some rs =>
      l.pointers == r.pointers && ls.length == rs.length &&
        (ls.zip rs).attach.all fun ⟨pair, _⟩ => structural mode pair.1 pair.2
    | _, _ => false
  else l.category == r.category && l.signature == r.signature
termination_by left.size
decreasing_by
  rename_i hmem
  exact Nat.lt_of_lt_of_le (Descriptor.size_lt_of_mem_elements? _hl (List.of_mem_zip hmem).1)
    (Descriptor.size_resolve_le left)

/-- The comparison without the proofs that its recursion ends. -/
theorem structural_eq_ite (mode : Leniency) (left right : Descriptor) :
    structural mode left right =
      let l := left.resolve
      let r := right.resolve
      if !mode.ignoreAny && (l.isAny || r.isAny) then true
      else if l.isNil then r.isNullable
      else if r.isNil then l.isNullable
      else if mode.allowAssign && ((l.isVoidptr && r.isPointer) || (r.isVoidptr && l.isPointer)) then
        true
      else if l.multi || r.multi then
        match l.elements?, r.elements? with
        | some ls, some rs =>
          l.pointers == r.pointers && ls.length == rs.length &&
            (ls.zip rs).all fun pair => structural mode pair.1 pair.2
        | _, _ => false
      else l.category == r.category && l.signature == r.signature := by
  rw [structural]
  refine ite_congr rfl (fun _ => rfl) fun _ => ?_
  refine ite_congr rfl (fun _ => rfl) fun _ => ?_
  refine ite_congr rfl (fun _ => rfl) fun _ => ?_
  refine ite_congr rfl (fun _ => rfl) fun _ => ?_
  refine ite_congr rfl (fun _ => ?_) fun _ => rfl
  split
  · rename_i ls rs leftParts rightParts
    have pairs := congrArg (List.all · fun pair => structural mode pair.1 pair.2)
      (ls.zip rs).attach_map_subtype_val
    rw [List.all_map] at pairs
    rw [leftParts, rightParts]
    exact congrArg _ pairs
  · rename_i other
    split
    · rename_i leftParts rightParts
      exact (other _ _ leftParts rightParts).elim
    · rfl

end BinarySolver
