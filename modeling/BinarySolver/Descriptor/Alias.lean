/-
# BinarySolver.Descriptor.Alias -- resolving an alias to the type it names

An alias may stand behind markers and in front of arguments.  Resolving puts the
signature of its target in place of its name, follows the target's own alias, and
keeps the place where the alias was written.  `size` measures a descriptor with
all its parts: resolving never makes it larger and every part is smaller, which is
why functions on types may resolve first and then go into the parts.
-/
import BinarySolver.Descriptor
import BinarySolver.Identifier

namespace BinarySolver.Descriptor

set_option autoImplicit false

/-- The type at the end of a chain of aliases, under the markers met on the way. -/
def resolve (d : Descriptor) : Descriptor :=
  match d with
  | ⟨_, signature, some target, _, _, span⟩ =>
    let resolved := resolve target
    let cut := Identifier.split signature
    { resolved with
      signature := cut.markers ++ resolved.signature ++ cut.rest
      span }
  | ⟨category, signature, none, payload, multi, span⟩ =>
    ⟨category, signature, none, payload, multi, span⟩

/-! ## Size -/

mutual

/-- The length of the signature, one more for the type itself, and all parts. -/
def size : Descriptor → Nat
  | ⟨_, signature, aliasOf, payload, _, _⟩ =>
    1 + signature.toList.length + sizeOption aliasOf + sizePayload payload

def sizeOption : Option Descriptor → Nat
  | none => 0
  | some d => size d

def sizePayload : Payload Descriptor → Nat
  | .none => 0
  | .map key value => size key + size value
  | .generics arguments => sizeList arguments
  | .enum underlying => size underlying
  | .func params ret => sizeParams params + size ret
  | .tuple elements => sizeList elements

def sizeList : List Descriptor → Nat
  | [] => 0
  | d :: ds => size d + sizeList ds

def sizeParams : List (Param Descriptor) → Nat
  | [] => 0
  | ⟨_, type, _, _⟩ :: ps => size type + sizeParams ps

end

theorem size_eq (d : Descriptor) :
    d.size = 1 + d.signature.toList.length + sizeOption d.aliasOf + sizePayload d.payload := by
  cases d; simp [size]

theorem size_le_sizeList {d : Descriptor} {ds : List Descriptor} (h : d ∈ ds) :
    d.size ≤ sizeList ds := by
  induction ds with
  | nil => cases h
  | cons e es ih =>
    simp only [sizeList]
    rcases List.mem_cons.1 h with rfl | h
    · omega
    · have := ih h; omega

theorem size_le_sizeParams {p : Param Descriptor} {ps : List (Param Descriptor)} (h : p ∈ ps) :
    p.type.size ≤ sizeParams ps := by
  induction ps with
  | nil => cases h
  | cons q qs ih =>
    cases q
    simp only [sizeParams]
    rcases List.mem_cons.1 h with rfl | h
    · simp
    · have := ih h; omega

theorem sizePayload_lt (d : Descriptor) : sizePayload d.payload < d.size := by
  rw [size_eq]; omega

/-- Markers and rest of a signature are no longer than the signature. -/
theorem length_split_le (text : String) :
    (Identifier.split text).markers.toList.length + (Identifier.split text).rest.toList.length
      ≤ text.toList.length := by
  have h := congrArg (fun t : String => t.toList.length) (Identifier.split_append text)
  simp only [String.toList_append, List.length_append] at h
  omega

theorem size_resolve_le (d : Descriptor) : d.resolve.size ≤ d.size := by
  fun_induction resolve d with
  | case1 _ signature target _ _ _ resolved cut ih =>
    have hc := length_split_le signature
    have hr := size_eq resolved
    simp only [size_eq, sizeOption, String.toList_append, List.length_append] at ih ⊢
    simp only [resolved, cut] at *
    omega
  | case2 => simp

end BinarySolver.Descriptor
