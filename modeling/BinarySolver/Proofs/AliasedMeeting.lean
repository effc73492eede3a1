/-
# BinarySolver.Proofs.AliasedMeeting -- when types of one expansion meet

The comparison by structure resolves the types that it is given and the elements of their
tuples, and then it compares signatures, in which the aliases in other components stand
under their own names.  So two types that have one expansion meet exactly if the leaves at
which their tuples end have the same signatures, or have a place of their own:
**`structural_coaliased`**.  Aliases that stand in no leaf are not seen; those that do may
keep types apart that meet when they are expanded.
-/
import BinarySolver.Proofs.Outline
import BinarySolver.Proofs.Symmetry

namespace BinarySolver

set_option autoImplicit false

namespace Descriptor

variable {d e l r : Descriptor}

/-! ## Types without aliases -/

/-- Neither the type nor anything in it is an alias. -/
inductive AliasFree : Descriptor → Prop
  | intro {d : Descriptor} (bare : d.aliasOf = none) (parts : ∀ p ∈ d.payload.parts, AliasFree p) :
      AliasFree d

theorem AliasFree.bare (free : d.AliasFree) : d.aliasOf = none := by
  cases free
  assumption

theorem AliasFree.part (free : d.AliasFree) : ∀ p ∈ d.payload.parts, p.AliasFree := by
  cases free
  assumption

theorem AliasFree.resolve_eq (free : d.AliasFree) : d.resolve = d := resolve_of_aliasOf free.bare

/-- What is made of the same parts is free of aliases as well. -/
theorem AliasFree.of_payload (free : d.AliasFree) (bare : e.aliasOf = none)
    (payload : e.payload = d.payload) : e.AliasFree := by
  refine .intro bare ?_
  rw [payload]
  exact free.part

theorem not_aliasFree_aliasTo (name : String) (d : Descriptor) : ¬ (aliasTo name d).AliasFree := by
  intro free
  cases free.bare

/-- Two types show the same and have the same name. -/
structure SameName (d e : Descriptor) : Prop where
  category : d.category = e.category
  multi : d.multi = e.multi
  signature : d.signature = e.signature

namespace SameName

theorem isVoid (same : SameName d e) : d.isVoid = e.isVoid := by
  simp only [Descriptor.isVoid, isA, isPlain, startsWith, same.category, same.signature,
    same.multi]

theorem marked (same : SameName d e) (marker : String) :
    SameName (d.marked marker) (e.marked marker) :=
  ⟨same.category, same.multi, congrArg (marker ++ ·) same.signature⟩

theorem signatureList {parts : List (Descriptor × Descriptor)}
    (same : ∀ p ∈ parts, SameName p.1 p.2) :
    Descriptor.signatureList (parts.map Prod.fst) =
      Descriptor.signatureList (parts.map Prod.snd) := by
  rw [Descriptor.signatureList, Descriptor.signatureList, List.map_map, List.map_map]
  exact congrArg _ (List.map_congr_left fun p member => (same p member).signature)

theorem function {params : List (Param (Descriptor × Descriptor))} {ret out : Descriptor}
    (types : ∀ p ∈ params, SameName p.type.1 p.type.2) (result : SameName ret out) :
    SameName (.function (params.map (Param.map Prod.fst)) ret)
      (.function (params.map (Param.map Prod.snd)) out) := by
  have written : (params.map (Param.map Prod.fst)).map paramSignature =
      (params.map (Param.map Prod.snd)).map paramSignature := by
    rw [List.map_map, List.map_map]
    refine List.map_congr_left fun p member => ?_
    simp only [Function.comp_apply, paramSignature, Param.map, (types p member).signature]
    rfl
  refine ⟨rfl, rfl, ?_⟩
  simp only [Descriptor.function, Descriptor.named, functionSignature, written, result.isVoid,
    result.signature]

theorem withGenerics (c : Category) (name : String) {parts : List (Descriptor × Descriptor)}
    (same : ∀ p ∈ parts, SameName p.1 p.2) :
    SameName ((Descriptor.named c name).withGenerics (parts.map Prod.fst))
      ((Descriptor.named c name).withGenerics (parts.map Prod.snd)) := by
  refine ⟨rfl, rfl, ?_⟩
  simp only [Descriptor.withGenerics, signatureList same, List.isEmpty_map]

end SameName

/-- Types of one expansion that hold no alias have one name. -/
theorem Aliased.sameName (aliased : Aliased d e) (left : d.AliasFree) (right : e.AliasFree) :
    SameName d e := by
  induction aliased with
  | scalar c => exact ⟨rfl, rfl, rfl⟩
  | named c identifier => exact ⟨rfl, rfl, rfl⟩
  | pointerTo target ih | arrayOf element ih | sliceOf element ih =>
      exact (ih (left.of_payload left.bare rfl) (right.of_payload right.bare rfl)).marked _
  | map key value keyIh valueIh =>
      have keys := keyIh (left.part _ (.head _)) (right.part _ (.head _))
      have values := valueIh (left.part _ (.tail _ (.head _))) (right.part _ (.tail _ (.head _)))
      refine ⟨rfl, rfl, ?_⟩
      simp only [Descriptor.map, Descriptor.named, keys.signature, values.signature]
  | tuple elements ih =>
      have same := SameName.signatureList fun p member =>
        ih p member (left.part _ (List.mem_map_of_mem member))
          (right.part _ (List.mem_map_of_mem member))
      refine ⟨rfl, rfl, ?_⟩
      simp only [Descriptor.tuple, Descriptor.named, same]
  | @function params ret out types result typesIh resultIh =>
      have part : ∀ {f : Descriptor × Descriptor → Descriptor} {p}, p ∈ params →
          f p.type ∈ (params.map (Param.map f)).map Param.type := by
        intro f p member
        exact List.mem_map_of_mem (List.mem_map_of_mem member)
      have results := resultIh (left.part _ (.head _)) (right.part _ (.head _))
      refine .function (fun p member => ?_) results
      exact typesIh p member (left.part _ (.tail _ (part member)))
        (right.part _ (.tail _ (part member)))
  | enumeration identifier underlying ih => exact ⟨rfl, rfl, rfl⟩
  | withGenerics c identifier arguments ih =>
      refine .withGenerics c _ fun p member => ?_
      exact ih p member (left.part _ (List.mem_map_of_mem member))
        (right.part _ (List.mem_map_of_mem member))
  | aliasTo => exact absurd left (not_aliasFree_aliasTo _ _)
  | withSpan same leftSpan rightSpan ih =>
      have inner := ih (left.of_payload left.bare rfl) (right.of_payload right.bare rfl)
      exact ⟨inner.category, inner.multi, inner.signature⟩
  | behind => exact absurd right (not_aliasFree_aliasTo _ _)

/-! ## Types of one expansion -/

/-- Two types have one expansion: they are one type without aliases, with aliases put around
its components here or there. -/
def Coaliased (l r : Descriptor) : Prop := ∃ e, AliasFree e ∧ Aliased e l ∧ Aliased e r

theorem AliasFree.of_elements? {ds : List Descriptor} (free : d.AliasFree)
    (parts : d.resolve.elements? = some ds) : ∀ e ∈ ds, e.AliasFree := by
  rw [free.resolve_eq] at parts
  have part := free.part
  unfold elements? at parts
  split at parts
  · rename_i es payload
    split at parts
    · cases parts
      rwa [payload] at part
    · cases parts
  · cases parts

theorem AliasFree.of_underlying? {u : Descriptor} (free : d.AliasFree)
    (behind : d.resolve.underlying? = some u) : u.AliasFree := by
  rw [free.resolve_eq] at behind
  have part := free.part
  unfold underlying? at behind
  split at behind
  · rename_i v payload
    split at behind
    · cases behind
      rw [payload] at part
      exact part u (.head _)
    · cases behind
  · cases behind

namespace Coaliased

theorem outline (same : Coaliased l r) : SameOutline l.resolve r.resolve := by
  obtain ⟨e, -, left, right⟩ := same
  exact left.counterpart.outline.symm.trans right.counterpart.outline

theorem resolve (same : Coaliased l r) : Coaliased l.resolve r.resolve := by
  obtain ⟨e, free, left, right⟩ := same
  have expanded := left.counterpart.aliased
  have again := right.counterpart.aliased
  rw [free.resolve_eq] at expanded again
  exact ⟨e, free, expanded, again⟩

/-- Without aliases in them types of one expansion have one signature. -/
theorem signature_eq (same : Coaliased l r) (left : l.AliasFree) (right : r.AliasFree) :
    l.signature = r.signature := by
  obtain ⟨e, free, expanded, again⟩ := same
  exact (expanded.sameName free left).signature.symm.trans (again.sameName free right).signature

/-- Components that have their expansions in common, pair by pair. -/
theorem of_parts : ∀ {ps qs : List (Descriptor × Descriptor)},
    ps.map Prod.fst = qs.map Prod.fst → (∀ e ∈ ps.map Prod.fst, e.AliasFree) →
      (∀ p ∈ ps, Aliased p.1 p.2) → (∀ q ∈ qs, Aliased q.1 q.2) →
      (ps.map Prod.snd).length = (qs.map Prod.snd).length ∧
        ∀ pair ∈ (ps.map Prod.snd).zip (qs.map Prod.snd), Coaliased pair.1 pair.2
  | [], [], _, _, _, _ => ⟨rfl, nofun⟩
  | p :: ps, q :: qs, same, free, left, right => by
      obtain ⟨first, rest⟩ := List.cons.inj same
      obtain ⟨length, pairs⟩ := of_parts rest (fun e member => free e (.tail _ member))
        (fun p member => left p (.tail _ member)) fun q member => right q (.tail _ member)
      refine ⟨congrArg (· + 1) length, ?_⟩
      intro pair member
      rcases List.mem_cons.1 member with rfl | member
      · exact ⟨p.1, free p.1 (.head _), left p (.head _), first ▸ right q (.head _)⟩
      · exact pairs pair member

/-- Both types are several values at once, of elements of one expansion, or neither is. -/
theorem elements (same : Coaliased l r) :
    (l.resolve.multi = false ∧ l.resolve.elements? = none ∧ r.resolve.elements? = none) ∨
      ∃ ls rs, l.resolve.elements? = some ls ∧ r.resolve.elements? = some rs ∧
        ls.length = rs.length ∧ ∀ pair ∈ ls.zip rs, Coaliased pair.1 pair.2 := by
  obtain ⟨e, free, left, right⟩ := same
  rcases left.counterpart.elements with
    ⟨-, single, noParts, parts⟩ | ⟨ps, expanded, parts, leftSame⟩
  · rcases right.counterpart.elements with ⟨-, -, -, others⟩ | ⟨qs, expanded, -, -⟩
    · exact .inl ⟨single, parts, others⟩
    · rw [noParts] at expanded
      cases expanded
  · rcases right.counterpart.elements with ⟨-, -, noParts, -⟩ | ⟨qs, again, others, rightSame⟩
    · rw [expanded] at noParts
      cases noParts
    · rw [expanded] at again
      exact .inr ⟨_, _, parts, others, of_parts (Option.some.inj again)
        (free.of_elements? expanded) leftSame rightSame⟩

/-- Both types are enums of types of one expansion, or neither is an enum of a type. -/
theorem underlying (same : Coaliased l r) :
    (l.resolve.underlying? = none ∧ r.resolve.underlying? = none) ∨
      ∃ u v, l.resolve.underlying? = some u ∧ r.resolve.underlying? = some v ∧ Coaliased u v := by
  obtain ⟨e, free, left, right⟩ := same
  rcases left.counterpart.underlying with ⟨noType, bare⟩ | ⟨w, u, expanded, behind, leftSame⟩
  · rcases right.counterpart.underlying with ⟨-, other⟩ | ⟨w, v, expanded, -, -⟩
    · exact .inl ⟨bare, other⟩
    · rw [noType] at expanded
      cases expanded
  · rcases right.counterpart.underlying with ⟨noType, -⟩ | ⟨w', v, again, others, rightSame⟩
    · rw [expanded] at noType
      cases noType
    · rw [expanded] at again
      cases again
      exact .inr ⟨u, v, behind, others, w, free.of_underlying? expanded, leftSame, rightSame⟩

end Coaliased

/-! ## Leaves -/

/-- The types at which the tuples of a type end, resolved: what the comparison by structure
compares as a whole. -/
def leaves (d : Descriptor) : List Descriptor :=
  match _h : d.resolve.elements? with
  | some ds => ds.attach.flatMap fun ⟨e, _⟩ => e.leaves
  | none => [d.resolve]
termination_by d.size
decreasing_by
  rename_i member
  exact Nat.lt_of_lt_of_le (size_lt_of_mem_elements? _h member) (size_resolve_le d)

theorem leaves_of_elements? {ds : List Descriptor} (parts : d.resolve.elements? = some ds) :
    d.leaves = ds.flatMap leaves := by
  rw [leaves]
  split
  · rename_i es same
    rw [parts] at same
    cases same
    have inside := List.flatMap_map (f := Subtype.val) (g := leaves) ds.attach
    rw [List.attach_map_subtype_val] at inside
    exact inside.symm
  · rename_i other
    rw [parts] at other
    cases other

theorem leaves_of_elements?_eq_none (simple : d.resolve.elements? = none) :
    d.leaves = [d.resolve] := by
  rw [leaves]
  split
  · rename_i ds other
    rw [simple] at other
    cases other
  · rfl

theorem leaves_resolve (d : Descriptor) : d.resolve.leaves = d.leaves := by
  cases parts : d.resolve.elements? with
  | some ds =>
      rw [leaves_of_elements? parts, leaves_of_elements? (by rwa [resolve_resolve])]
  | none =>
      rw [leaves_of_elements?_eq_none parts, leaves_of_elements?_eq_none (by rwa [resolve_resolve]),
        resolve_resolve]

/-- In a type without aliases there are none to be found. -/
theorem AliasFree.leaves {d : Descriptor} (free : d.AliasFree) :
    ∀ leaf ∈ d.leaves, leaf.AliasFree := by
  intro leaf member
  cases parts : d.resolve.elements? with
  | none =>
      rw [leaves_of_elements?_eq_none parts, List.mem_singleton, free.resolve_eq] at member
      rwa [member]
  | some ds =>
      rw [leaves_of_elements? parts] at member
      obtain ⟨e, inside, member⟩ := List.mem_flatMap.1 member
      have smaller := size_lt_of_mem_elements? parts inside
      have whole := size_resolve_le d
      exact (free.of_elements? parts e inside).leaves leaf member
termination_by d.size

end Descriptor

/-- A type of this kind meets any other of this kind, whatever it is called. -/
def Leniency.waives (mode : Leniency) (d : Descriptor) : Bool :=
  (!mode.ignoreAny && d.isAny) || d.isNil || (mode.allowAssign && d.isVoidptr)

/-! ## Meeting -/

section Meeting

open Descriptor

variable {mode : Leniency} {l r : Descriptor}

/-- Of two types that show the same and are no tuples the names are compared. -/
theorem structural_of_outline (mode : Leniency) (same : SameOutline l.resolve r.resolve)
    (single : l.resolve.multi = false) :
    structural mode l r =
      (mode.waives l.resolve || l.resolve.signature == r.resolve.signature) := by
  have any : r.resolve.isAny = l.resolve.isAny := (same.isA .any).symm
  have nil : r.resolve.isNil = l.resolve.isNil := (same.isA .nil).symm
  have voidptr : r.resolve.isVoidptr = l.resolve.isVoidptr := (same.isA .voidptr).symm
  have other : r.resolve.multi = false := same.multi.symm.trans single
  have category : (l.resolve.category == r.resolve.category) = true := beq_iff_eq.2 same.category
  rw [structural_eq_ite]
  simp only [any, nil, voidptr, ← same.isNullable, ← same.isPointer, single, other, category,
    Bool.or_self, Bool.true_and, Bool.false_eq_true, if_false, Leniency.waives]
  generalize l.resolve = d
  cases isNil : d.isNil with
  | true => simp [isNullable_of_isNil isNil]
  | false =>
      have pointer : (d.isVoidptr && d.isPointer) = d.isVoidptr := by
        cases voidptr : d.isVoidptr <;> simp [isPointer, voidptr]
      simp [pointer, Bool.or_assoc]

/-- Tuples that show the same are compared by their elements. -/
theorem structural_of_elements? {ls rs : List Descriptor}
    (same : SameOutline l.resolve r.resolve) (left : l.resolve.elements? = some ls)
    (right : r.resolve.elements? = some rs) (length : ls.length = rs.length) :
    structural mode l r = (ls.zip rs).all fun pair => structural mode pair.1 pair.2 := by
  have several : l.resolve.multi = true := multi_of_elements? left
  have notPlain : l.resolve.isPlain = false := by rw [isPlain, several]; rfl
  have noName : ∀ c, l.resolve.isA c = false := by
    intro c
    rw [isA, notPlain, Bool.and_false]
  rw [structural_eq_ite]
  simp only [isAny, isNil, isVoidptr, ← same.isA, noName, several, left, right, same.pointers,
    length, Bool.or_self, Bool.and_false, Bool.false_and, Bool.true_or, Bool.false_eq_true,
    if_false, if_true, beq_self_eq_true, Bool.true_and]

/-- Lists that are joined from lists of the same lengths are paired as these are. -/
theorem zip_flatMap {α β : Type} {f : α → List β} : ∀ {ls rs : List α},
    ls.length = rs.length → (∀ pair ∈ ls.zip rs, (f pair.1).length = (f pair.2).length) →
      (ls.flatMap f).length = (rs.flatMap f).length ∧
        (ls.flatMap f).zip (rs.flatMap f) =
          (ls.zip rs).flatMap fun pair => (f pair.1).zip (f pair.2)
  | [], [], _, _ => ⟨rfl, rfl⟩
  | l :: ls, r :: rs, length, lengths => by
      have first := lengths (l, r) (.head _)
      obtain ⟨whole, pairs⟩ := zip_flatMap (Nat.succ.inj length)
        fun pair member => lengths pair (.tail _ member)
      constructor
      · rw [List.flatMap_cons, List.flatMap_cons, List.length_append, List.length_append, first,
          whole]
      · rw [List.flatMap_cons, List.flatMap_cons, List.zip_append first, pairs,
          List.zip_cons_cons, List.flatMap_cons]

namespace Descriptor

/-- The leaves of types of one expansion have one expansion, pair by pair. -/
theorem Coaliased.pairs {l r : Descriptor} (same : Coaliased l r) :
    l.leaves.length = r.leaves.length ∧
      ∀ pair ∈ l.leaves.zip r.leaves, Coaliased pair.1 pair.2 := by
  rcases same.elements with ⟨-, left, right⟩ | ⟨ls, rs, left, right, length, parts⟩
  · rw [leaves_of_elements?_eq_none left, leaves_of_elements?_eq_none right]
    refine ⟨rfl, fun pair member => ?_⟩
    rw [List.zip_cons_cons, List.zip_nil_left, List.mem_singleton] at member
    rw [member]
    exact same.resolve
  · have inner : ∀ pair ∈ ls.zip rs, pair.1.leaves.length = pair.2.leaves.length ∧
        ∀ leaf ∈ pair.1.leaves.zip pair.2.leaves, Coaliased leaf.1 leaf.2 := by
      intro pair member
      have inside := size_lt_of_mem_elements? left (List.of_mem_zip member).1
      have smaller := size_resolve_le l
      exact (parts pair member).pairs
    obtain ⟨whole, joined⟩ := zip_flatMap length fun pair member => (inner pair member).1
    rw [leaves_of_elements? left, leaves_of_elements? right, joined]
    refine ⟨whole, fun leaf member => ?_⟩
    obtain ⟨pair, outer, member⟩ := List.mem_flatMap.1 member
    exact (inner pair outer).2 leaf member
termination_by l.size

end Descriptor

/-- Types of one expansion meet exactly if their leaves have the same signatures, pair by
pair, those excepted that meet under any name. -/
theorem structural_coaliased {l r : Descriptor} (same : Coaliased l r) :
    structural mode l r = true ↔
      ∀ pair ∈ l.leaves.zip r.leaves,
        pair.1.signature = pair.2.signature ∨ mode.waives pair.1 = true := by
  rcases same.elements with ⟨single, left, right⟩ | ⟨ls, rs, left, right, length, parts⟩
  · rw [structural_of_outline mode same.outline single, leaves_of_elements?_eq_none left,
      leaves_of_elements?_eq_none right]
    simp [or_comm]
  · have inner : ∀ pair ∈ ls.zip rs, (structural mode pair.1 pair.2 = true ↔
        ∀ leaf ∈ pair.1.leaves.zip pair.2.leaves,
          leaf.1.signature = leaf.2.signature ∨ mode.waives leaf.1 = true) := by
      intro pair member
      have inside := size_lt_of_mem_elements? left (List.of_mem_zip member).1
      have smaller := size_resolve_le l
      exact structural_coaliased (parts pair member)
    obtain ⟨-, joined⟩ := zip_flatMap length fun pair member => (parts pair member).pairs.1
    rw [structural_of_elements? same.outline left right length, leaves_of_elements? left,
      leaves_of_elements? right, joined, List.all_eq_true]
    constructor
    · intro meet leaf member
      obtain ⟨pair, outer, member⟩ := List.mem_flatMap.1 member
      exact (inner pair outer).1 (meet pair outer) leaf member
    · intro alike pair outer
      exact (inner pair outer).2 fun leaf member =>
        alike leaf (List.mem_flatMap.2 ⟨pair, outer, member⟩)
termination_by l.size

/-- Where no leaf holds an alias, all aliases are seen through. -/
theorem structural_of_aliasFree_leaves (same : Coaliased l r)
    (left : ∀ leaf ∈ l.leaves, leaf.AliasFree) (right : ∀ leaf ∈ r.leaves, leaf.AliasFree) :
    structural mode l r = true := by
  refine (structural_coaliased same).2 fun pair member => .inl ?_
  obtain ⟨leftLeaf, rightLeaf⟩ := List.of_mem_zip member
  exact (same.pairs.2 pair member).signature_eq (left _ leftLeaf) (right _ rightLeaf)

/-- An expanded type meets itself. -/
theorem structural_self {e : Descriptor} (same : Coaliased e e) : structural mode e e = true := by
  refine (structural_coaliased same).2 fun pair member => .inl ?_
  rw [List.zip_eq_zipWith, List.zipWith_self] at member
  obtain ⟨leaf, -, rfl⟩ := List.mem_map.1 member
  rfl

end Meeting

end BinarySolver
