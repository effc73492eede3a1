/-
# BinarySolver.Proofs.Meeting -- laws of which types may meet

The comparison by structure asks one question after the other, and most of them of one
side at a time.  It obeys three laws all the same.  It does not matter which type stands
on the left (`structural_comm`).  A more lenient comparison lets no types apart that a
stricter one lets meet (`structural_mono`).  And a type meets itself exactly if the tuples
in it, however deep, hold their elements (`structural_self_iff`), which is so of all types
that the constructors build, unless a tuple was given arguments (`Built.whole`).
`structural_laws` is the three together.
-/
import BinarySolver.Proofs.Aliasing
import BinarySolver.Proofs.BestEffort
import BinarySolver.Proofs.Symmetry

namespace BinarySolver

set_option autoImplicit false

/-! ## Leniency -/

/-- `strict ≤ lenient`: whatever `strict` grants is granted by `lenient`. -/
instance : LE Leniency where
  le strict lenient := (lenient.ignoreAny = true → strict.ignoreAny = true) ∧
    (strict.allowAssign = true → lenient.allowAssign = true)

section Mono

variable {strict lenient : Leniency}

/-- What is waived for `any` by one comparison is waived by a more lenient one. -/
theorem waives_any_mono (le : strict ≤ lenient) {present : Bool}
    (waived : (!strict.ignoreAny && present) = true) :
    (!lenient.ignoreAny && present) = true := by
  obtain ⟨ignores, -⟩ := le
  cases ignored : lenient.ignoreAny with
  | true => simp [ignores ignored] at waived
  | false => simpa using (Bool.and_eq_true_iff.1 waived).2

theorem waives_assign_mono (le : strict ≤ lenient) {present : Bool}
    (waived : (strict.allowAssign && present) = true) :
    (lenient.allowAssign && present) = true := by
  obtain ⟨allowed, found⟩ := Bool.and_eq_true_iff.1 waived
  rw [le.2 allowed, found]
  rfl

theorem structural_mono (le : strict ≤ lenient) (left right : Descriptor)
    (meets : structural strict left right = true) : structural lenient left right = true := by
  have smaller : ∀ ds : List Descriptor, left.resolve.elements? = some ds → ∀ d ∈ ds, ∀ e,
      structural strict d e = true → structural lenient d e = true := by
    intro ds parts d member e
    have part := Descriptor.size_lt_of_mem_elements? parts member
    have whole := Descriptor.size_resolve_le left
    exact structural_mono le d e
  rw [structural_eq_ite] at meets ⊢
  generalize left.resolve = l at smaller meets ⊢
  generalize right.resolve = r at meets ⊢
  dsimp only at meets ⊢
  split
  · rfl
  rename_i other
  rw [if_neg fun waived => other (waives_any_mono le waived)] at meets
  split
  · rename_i leftNil
    rwa [if_pos leftNil] at meets
  rename_i leftNil
  rw [if_neg leftNil] at meets
  split
  · rename_i rightNil
    rwa [if_pos rightNil] at meets
  rename_i rightNil
  rw [if_neg rightNil] at meets
  split
  · rfl
  rename_i assigns
  rw [if_neg fun waived => assigns (waives_assign_mono le waived)] at meets
  split
  · rename_i several
    rw [if_pos several] at meets
    cases leftParts : l.elements? with
    | none => simp [leftParts] at meets
    | some ls =>
        cases rightParts : r.elements? with
        | none => simp [leftParts, rightParts] at meets
        | some rs =>
            simp only [leftParts, rightParts, Bool.and_eq_true, List.all_eq_true] at meets ⊢
            refine ⟨meets.1, fun pair member => ?_⟩
            exact smaller ls leftParts pair.1 (List.of_mem_zip member).1 pair.2
              (meets.2 pair member)
  · rename_i single
    rwa [if_neg single] at meets
termination_by left.size
decreasing_by exact Nat.lt_of_lt_of_le part whole

end Mono

/-! ## A type and itself -/

namespace Descriptor

variable {d : Descriptor}

/-- A type whose tuples, however deep, hold their elements. -/
inductive Whole : Descriptor → Prop
  | single {d : Descriptor} (single : d.resolve.multi = false) : Whole d
  | tuple {d : Descriptor} {ds : List Descriptor} (parts : d.resolve.elements? = some ds)
      (elements : ∀ e ∈ ds, Whole e) : Whole d

/-- Several values at once are of no plain category. -/
theorem isA_of_multi (several : d.multi = true) (c : Category) : d.isA c = false := by
  simp [isA, isPlain, several]

/-- Resolving is all that matters to being whole. -/
theorem Whole.congr {e : Descriptor} (whole : d.Whole)
    (multi : e.resolve.multi = d.resolve.multi)
    (payload : e.resolve.payload = d.resolve.payload) : e.Whole := by
  cases whole with
  | single single => exact .single (multi.trans single)
  | tuple parts elements =>
      refine .tuple ?_ elements
      rw [← parts, elements?, elements?, multi, payload]

end Descriptor

/-- A list is compared with itself element by element. -/
theorem all_zip_self {α : Type} (meets : α → α → Bool) (as : List α) :
    ((as.zip as).all fun pair => meets pair.1 pair.2) = as.all fun a => meets a a := by
  rw [List.zip, List.zipWith_self, List.all_map]
  rfl

/-- Several values at once meet themselves element by element. -/
theorem structural_self_of_multi (mode : Leniency) {d : Descriptor}
    (several : d.resolve.multi = true) :
    structural mode d d =
      ((d.resolve.elements?.map fun ds => ds.all fun e => structural mode e e).getD false) := by
  have category := Descriptor.isA_of_multi several
  rw [structural_eq_ite]
  simp only [Descriptor.isAny, Descriptor.isNil, Descriptor.isVoidptr, category, several,
    Bool.or_self, Bool.and_false, Bool.false_and, Bool.false_eq_true, if_false, if_true]
  cases d.resolve.elements? with
  | none => rfl
  | some ds => simp [all_zip_self]

/-- A single value meets itself: whatever question is asked first, the answer is yes. -/
theorem structural_self_of_single (mode : Leniency) {d : Descriptor}
    (single : d.resolve.multi = false) : structural mode d d = true := by
  rw [structural_eq_ite]
  simp only [single, Bool.or_self, Bool.false_eq_true, if_false, beq_self_eq_true, Bool.and_self]
  split
  · rfl
  split
  · exact Descriptor.isNullable_of_isNil ‹_›
  split <;> rfl

/-- A type meets itself, in every mode, exactly if it is whole. -/
theorem structural_self_iff (mode : Leniency) (d : Descriptor) :
    structural mode d d = true ↔ d.Whole := by
  constructor
  · intro meets
    cases several : d.resolve.multi with
    | false => exact .single several
    | true =>
        rw [structural_self_of_multi mode several] at meets
        cases parts : d.resolve.elements? with
        | none => simp [parts] at meets
        | some ds =>
            simp only [parts, Option.map_some, Option.getD_some, List.all_eq_true] at meets
            refine .tuple parts fun e member => ?_
            have part := Descriptor.size_lt_of_mem_elements? parts member
            have whole := Descriptor.size_resolve_le d
            exact (structural_self_iff mode e).1 (meets e member)
  · intro whole
    induction whole with
    | single single => exact structural_self_of_single mode single
    | tuple parts _ ih =>
        rw [structural_self_of_multi mode (Descriptor.multi_of_elements? parts), parts]
        simpa using ih
termination_by d.size
decreasing_by exact Nat.lt_of_lt_of_le part whole

/-! ## Types that are built -/

namespace Descriptor

variable {d : Descriptor}

/-- The types that the constructors build from any texts at all.  Arguments are given to
anything but a tuple. -/
inductive Built : Descriptor → Prop
  | named (c : Category) (name : String) : Built (.named c name)
  | pointerTo {d : Descriptor} (target : Built d) : Built d.pointerTo
  | arrayOf {d : Descriptor} (element : Built d) : Built d.arrayOf
  | sliceOf {d : Descriptor} (element : Built d) : Built d.sliceOf
  | map {k v : Descriptor} (key : Built k) (value : Built v) : Built (.map k v)
  | tuple {ds : List Descriptor} (elements : ∀ d ∈ ds, Built d) : Built (.tuple ds)
  | function {params : List (Param Descriptor)} {ret : Descriptor}
      (types : ∀ p ∈ params, Built p.type) (result : Built ret) : Built (.function params ret)
  | enumeration (name : String) {d : Descriptor} (underlying : Built d) :
      Built (.enumeration name d)
  | aliasTo (name : String) {d : Descriptor} (target : Built d) : Built (.aliasTo name d)
  | withGenerics {d : Descriptor} {ds : List Descriptor} (generic : Built d)
      (single : d.multi = false) (arguments : ∀ e ∈ ds, Built e) : Built (d.withGenerics ds)
  | withSpan {d : Descriptor} (type : Built d) (span : Span) : Built (d.withSpan span)

theorem exists_resolve_of_aliasOf {target : Descriptor} (names : d.aliasOf = some target) :
    ∃ signature span, d.resolve = { target.resolve with signature, span } := by
  obtain ⟨category, name, aliasOf, payload, multi, span⟩ := d
  subst names
  exact ⟨_, _, by rw [resolve]⟩

theorem whole_of_single (bare : d.aliasOf = none) (single : d.multi = false) : d.Whole := by
  refine .single ?_
  rwa [resolve_of_aliasOf bare]

/-- What an alias is given does not reach the type that it names. -/
theorem Whole.of_aliasOf {e target : Descriptor} (whole : d.Whole)
    (names : d.aliasOf = some target) (same : e.aliasOf = some target) : e.Whole := by
  obtain ⟨_, _, left⟩ := exists_resolve_of_aliasOf names
  obtain ⟨_, _, right⟩ := exists_resolve_of_aliasOf same
  exact whole.congr (by rw [left, right]) (by rw [left, right])

theorem Built.whole (built : d.Built) : d.Whole := by
  induction built with
  | named | map | function | enumeration => exact whole_of_single rfl rfl
  | @pointerTo d _ ih =>
      have resolved := resolve_pointerTo d
      exact ih.congr (by rw [resolved]; rfl) (by rw [resolved]; rfl)
  | @arrayOf d _ ih =>
      have resolved := resolve_arrayOf d
      exact ih.congr (by rw [resolved]; rfl) (by rw [resolved]; rfl)
  | @sliceOf d _ ih =>
      have resolved := resolve_sliceOf d
      exact ih.congr (by rw [resolved]; rfl) (by rw [resolved]; rfl)
  | @tuple ds _ ih =>
      have parts : (Descriptor.tuple ds).resolve.elements? = some ds := by
        rw [resolve_of_aliasOf rfl]
        rfl
      exact .tuple parts ih
  | @aliasTo name d _ ih =>
      obtain ⟨_, _, resolved⟩ := exists_resolve_of_aliasOf (d := .aliasTo name d) rfl
      exact ih.congr (by rw [resolved]) (by rw [resolved])
  | @withGenerics d ds _ single _ ih =>
      cases names : d.aliasOf with
      | none => exact whole_of_single names single
      | some target => exact ih.of_aliasOf names names
  | @withSpan d _ span ih =>
      have resolved := resolve_withSpan d span
      exact ih.congr (by rw [resolved]; rfl) (by rw [resolved]; rfl)

/-- Arguments take the place of the elements of a tuple, which then are not there to be
compared. -/
theorem not_whole_tuple_withGenerics (elements arguments : List Descriptor) :
    ¬ ((tuple elements).withGenerics arguments).Whole := by
  intro whole
  cases whole with
  | single single =>
      rw [resolve_of_aliasOf rfl] at single
      cases single
  | tuple parts _ =>
      rw [resolve_of_aliasOf rfl] at parts
      cases parts

end Descriptor

/-- **Which types meet does not depend on their order, grows with leniency, and every type
that is built meets itself.** -/
theorem structural_laws :
    (∀ mode left right, structural mode left right = structural mode right left) ∧
      (∀ allowAssign left right,
        structural { ignoreAny := true, allowAssign } left right = true →
          structural { ignoreAny := false, allowAssign } left right = true) ∧
      (∀ ignoreAny left right,
        structural { ignoreAny, allowAssign := false } left right = true →
          structural { ignoreAny, allowAssign := true } left right = true) ∧
      ∀ t : Descriptor, t.Built → ∀ mode, structural mode t t = true := by
  refine ⟨structural_comm, ?_, ?_, ?_⟩
  · intro allowAssign left right
    have le : (⟨true, allowAssign⟩ : Leniency) ≤ ⟨false, allowAssign⟩ := ⟨fun _ => rfl, id⟩
    exact structural_mono le left right
  · intro ignoreAny left right
    have le : (⟨ignoreAny, false⟩ : Leniency) ≤ ⟨ignoreAny, true⟩ := ⟨id, fun _ => rfl⟩
    exact structural_mono le left right
  · intro t built mode
    exact (structural_self_iff mode t).2 built.whole

/-- A tuple of nil and `any` meets one of a pointer and `any`, which is told to be no
wildcard; and an alias of that tuple with a text for a name that is no identifier meets
itself. -/
theorem structural_laws_tuples :
    let nils := Descriptor.tuple [.nil, .scalar .any]
    let pointers := Descriptor.tuple [.pointerTo (.scalar .i32), .scalar .any]
    structural { ignoreAny := true, allowAssign := false } nils pointers = true ∧
      structural { ignoreAny := false, allowAssign := false } nils pointers = true ∧
      structural { ignoreAny := true, allowAssign := true } pointers nils = true ∧
      (Descriptor.aliasTo "*7" pointers).Built ∧
      structural { ignoreAny := true, allowAssign := false } (.aliasTo "*7" pointers)
        (.aliasTo "*7" pointers) = true := by
  intro nils pointers
  obtain ⟨comm, wildcard, assign, self⟩ := structural_laws
  have meets : structural { ignoreAny := true, allowAssign := false } nils pointers = true := by
    decide +kernel
  have built : (Descriptor.aliasTo "*7" pointers).Built := by
    refine .aliasTo _ (.tuple fun d member => ?_)
    rcases List.mem_cons.1 member with rfl | member
    · exact .pointerTo (.named .i32 "i32")
    · rw [List.mem_singleton] at member
      subst member
      exact .named .any "any"
  refine ⟨meets, wildcard _ _ _ meets, ?_, built, self _ built _⟩
  rw [comm]
  exact assign _ _ _ meets

end BinarySolver
