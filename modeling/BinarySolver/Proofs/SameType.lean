/-
# BinarySolver.Proofs.SameType -- what the comparison by structure tells apart

Where no name has a special place (`Concrete`), types meet if and only if they are the
same after `TypeTree.compared`, which takes the arrays and slices away that stand in
front of tuples: `structural_iff`.  Nothing else is lost, so types whose tuples stand
behind pointers only meet if they are the same.  An array of tuples and the tuple meet.
-/
import Mathlib.Logic.Function.Iterate
import BinarySolver.Compatibility
import BinarySolver.Proofs.Reading

namespace BinarySolver

set_option autoImplicit false

/-- The names of types that meet other types. -/
def lenientNames : List String := ["any", "nil", "voidptr"]

/-- The categories of these names. -/
def lenientCategories : List Category := [.any, .nil, .voidptr]

namespace Descriptor

variable {d e : Descriptor}

theorem isA_eq_false {c : Category} (lenient : c ∈ lenientCategories)
    (concrete : d.category ∉ lenientCategories) : d.isA c = false := by
  have other : d.category ≠ c := by
    intro same
    rw [same] at concrete
    exact concrete lenient
  rw [isA, beq_eq_false_iff_ne.2 other, Bool.false_and]

/-- The comparison of types that have no special place and are no aliases. -/
theorem structural_eq {mode : Leniency} (left : d.category ∉ lenientCategories)
    (right : e.category ∉ lenientCategories) (leftAlias : d.aliasOf = none)
    (rightAlias : e.aliasOf = none) : structural mode d e =
      if d.multi || e.multi then
        match d.elements?, e.elements? with
        | some ds, some es => d.pointers == e.pointers && ds.length == es.length &&
            (ds.zip es).all fun pair => structural mode pair.1 pair.2
        | _, _ => false
      else d.category == e.category && d.signature == e.signature := by
  have leftAny : d.isAny = false := isA_eq_false (by decide) left
  have leftNil : d.isNil = false := isA_eq_false (by decide) left
  have leftVoid : d.isVoidptr = false := isA_eq_false (by decide) left
  have rightAny : e.isAny = false := isA_eq_false (by decide) right
  have rightNil : e.isNil = false := isA_eq_false (by decide) right
  have rightVoid : e.isVoidptr = false := isA_eq_false (by decide) right
  have compared := structural_eq_ite mode d e
  simp only [resolve_of_aliasOf leftAlias, resolve_of_aliasOf rightAlias, leftAny, leftNil,
    leftVoid, rightAny, rightNil, rightVoid, Bool.or_self, Bool.and_false, Bool.false_and,
    Bool.false_eq_true, if_false] at compared
  exact compared

end Descriptor

namespace TypeName

variable {n : TypeName}

theorem Gives.category_not_mem {d : Descriptor} (gives : n.Gives d)
    (concrete : n.text ∉ lenientNames) : d.category ∉ lenientCategories := by
  cases gives with
  | scalar c named scalar =>
      rw [← named] at concrete
      show c ∉ lenientCategories
      revert concrete
      clear named scalar
      cases c <;> decide
  | function => decide
  | struct =>
      show Category.struct ∉ lenientCategories
      decide

theorem Gives.multi_eq {d : Descriptor} (gives : n.Gives d) : d.multi = false := by
  cases gives <;> rfl

end TypeName

namespace TypeTree

/-- No name in the type has a special place. -/
inductive Concrete : TypeTree → Prop
  | name {n : TypeName} (ordinary : n.text ∉ lenientNames) : Concrete (.name n)
  | pointer {t : TypeTree} (target : Concrete t) : Concrete (.pointer t)
  | array {t : TypeTree} (element : Concrete t) : Concrete (.array t)
  | slice {t : TypeTree} (element : Concrete t) : Concrete (.slice t)
  | map {key value : TypeTree} (left : Concrete key) (right : Concrete value) :
      Concrete (.map key value)
  | tuple {first : TypeTree} {rest : List TypeTree} (head : Concrete first)
      (tail : ∀ t ∈ rest, Concrete t) : Concrete (.tuple first rest)

theorem Concrete.category_not_mem {t : TypeTree} (concrete : t.Concrete) :
    t.descriptor.category ∉ lenientCategories := by
  induction concrete with
  | @name n ordinary =>
      rw [descriptor]
      exact n.gives_descriptor.category_not_mem ordinary
  | pointer target ih | array element ih | slice element ih =>
      rw [descriptor]
      exact ih
  | map =>
      rw [descriptor]
      show Category.map ∉ lenientCategories
      decide
  | tuple =>
      rw [descriptor]
      show Category.void ∉ lenientCategories
      decide

theorem multi_descriptor (t : TypeTree) : t.descriptor.multi = t.elements?.isSome := by
  induction t with
  | name n =>
      rw [descriptor]
      exact n.gives_descriptor.multi_eq
  | pointer t ih | array t ih | slice t ih =>
      rw [descriptor]
      exact ih
  | map | tuple =>
      rw [descriptor]
      rfl

/-! ## What is compared -/

/-- The number of pointers in front. -/
def stars : TypeTree → Nat
  | pointer t => t.stars + 1
  | _ => 0

/-- The type behind the pointers in front. -/
def core : TypeTree → TypeTree
  | pointer t => t.core
  | t => t

/-- What is left of a type for the comparison: of the markers in front of a tuple only the
pointers before the first array or slice. -/
def compared : TypeTree → TypeTree
  | name n => name n
  | pointer t => pointer t.compared
  | array t => if t.elements?.isSome then t.compared.core else array t
  | slice t => if t.elements?.isSome then t.compared.core else slice t
  | map key value => map key value
  | tuple first rest => tuple first.compared (rest.map compared)

theorem core_iterate_pointer (n : Nat) (t : TypeTree) : (pointer^[n] t).core = t.core := by
  induction n generalizing t with
  | zero => rfl
  | succ n ih => exact ih (pointer t)

theorem stars_iterate_pointer (n : Nat) (t : TypeTree) :
    (pointer^[n] t).stars = n + t.stars := by
  induction n generalizing t with
  | zero => exact (Nat.zero_add _).symm
  | succ n ih =>
      have next := ih (pointer t)
      rw [stars] at next
      rw [Function.iterate_succ_apply, next]
      omega

theorem elements?_iterate_pointer (n : Nat) (t : TypeTree) :
    (pointer^[n] t).elements? = t.elements? := by
  induction n generalizing t with
  | zero => rfl
  | succ n ih => exact ih (pointer t)

theorem iterate_pointer_tuple_inj {m n : Nat} {first other : TypeTree}
    {rest others : List TypeTree} :
    pointer^[m] (tuple first rest) = pointer^[n] (tuple other others) ↔
      m = n ∧ first = other ∧ rest = others := by
  constructor
  · intro same
    have markers := congrArg stars same
    have tuples := congrArg core same
    rw [stars_iterate_pointer, stars_iterate_pointer] at markers
    rw [core_iterate_pointer, core_iterate_pointer, core, core] at tuples
    · exact ⟨markers, TypeTree.tuple.inj tuples⟩
    · nofun
    · nofun
  · rintro ⟨rfl, rfl, rfl⟩
    rfl

theorem compared_of_simple {t : TypeTree} (simple : t.elements? = none) : t.compared = t := by
  induction t with
  | name n => rw [compared]
  | pointer t ih => rw [compared, ih simple]
  | array t =>
      have here : t.elements? = none := simple
      rw [compared, here]
      rfl
  | slice t =>
      have here : t.elements? = none := simple
      rw [compared, here]
      rfl
  | map => rw [compared]
  | tuple => cases simple

theorem compared_of_elements? {t first : TypeTree} {rest : List TypeTree}
    (elements : t.elements? = some (first, rest)) :
    t.compared = pointer^[t.stars] (tuple first.compared (rest.map compared)) := by
  induction t with
  | name => cases elements
  | pointer t ih => rw [compared, ih elements, stars, Function.iterate_succ_apply']
  | array t ih =>
      have here : t.elements? = some (first, rest) := elements
      rw [compared, here, Option.isSome_some, if_pos rfl, ih here, core_iterate_pointer]
      rfl
  | slice t ih =>
      have here : t.elements? = some (first, rest) := elements
      rw [compared, here, Option.isSome_some, if_pos rfl, ih here, core_iterate_pointer]
      rfl
  | map => cases elements
  | tuple =>
      cases elements
      rw [compared]
      rfl

/-- What is left of a tuple behind markers is a tuple behind pointers. -/
theorem compared_ne {t u : TypeTree} {us : TypeTree × List TypeTree} (left : t.elements? = none)
    (right : u.elements? = some us) : t.compared ≠ u.compared := by
  rw [compared_of_simple left, compared_of_elements? right]
  rintro rfl
  rw [elements?_iterate_pointer] at left
  cases left

/-- Where tuples stand behind pointers only, nothing is lost. -/
theorem TuplesBare.compared_eq {t : TypeTree} (bare : t.TuplesBare) : t.compared = t := by
  induction bare with
  | name n => rw [compared]
  | pointer target ih => rw [compared, ih]
  | array simple element ih =>
      rw [compared, simple]
      rfl
  | slice simple element ih =>
      rw [compared, simple]
      rfl
  | map => rw [compared]
  | tuple head tail headIh tailIh => rw [compared, headIh, List.map_congr_left tailIh, List.map_id']

theorem pointers_descriptor (t : TypeTree) : t.descriptor.pointers = t.stars := by
  rw [Descriptor.pointers, signature_descriptor]
  induction t with
  | name n =>
      obtain ⟨c, cs, front, letter⟩ := n.exists_letter
      have other : c ∉ ['*'] := Text.not_mem_of_all (by decide) letter
      rw [List.mem_singleton] at other
      rw [signature, TypeName.signature, front, List.cons_append,
        List.takeWhile_cons_of_neg (by simp [other])]
      rfl
  | pointer t ih =>
      rw [signature, List.takeWhile_cons_of_pos rfl, List.length_cons, ih]
      rfl
  | _ =>
      rw [signature]
      rfl

/-! ## The comparison -/

variable {mode : Leniency} {t u : TypeTree}

/-- The comparison of two trees, with their elements compared as types. -/
theorem structural_descriptor (left : t.Concrete) (right : u.Concrete) :
    structural mode t.descriptor u.descriptor =
      match t.elements?, u.elements? with
      | none, none => t.descriptor.category == u.descriptor.category &&
          t.descriptor.signature == u.descriptor.signature
      | some ts, some us =>
        t.stars == u.stars && ts.2.length == us.2.length &&
          structural mode ts.1.descriptor us.1.descriptor &&
          (ts.2.zip us.2).all fun pair => structural mode pair.1.descriptor pair.2.descriptor
      | _, _ => false := by
  rw [Descriptor.structural_eq left.category_not_mem right.category_not_mem t.aliasOf_descriptor
    u.aliasOf_descriptor, multi_descriptor, multi_descriptor, elements?_descriptor,
    elements?_descriptor, pointers_descriptor, pointers_descriptor]
  cases t.elements? <;> cases u.elements?
  · rfl
  · rfl
  · rfl
  · simp [List.zip_map, Bool.and_assoc, Function.comp_def]

theorem Concrete.elements {ts : TypeTree × List TypeTree} (concrete : t.Concrete)
    (elements : t.elements? = some ts) : ts.1.Concrete ∧ ∀ e ∈ ts.2, e.Concrete := by
  induction concrete with
  | name => cases elements
  | pointer target ih => exact ih elements
  | array element ih => exact ih elements
  | slice element ih => exact ih elements
  | map => cases elements
  | tuple head tail =>
      cases elements
      exact ⟨head, tail⟩

/-- The comparison tells what is left of a type. -/
def Tells (mode : Leniency) (t : TypeTree) : Prop :=
  t.Concrete → ∀ u : TypeTree, u.Concrete →
    (structural mode t.descriptor u.descriptor = true ↔ t.compared = u.compared)

theorem all_zip_iff {ts us : List TypeTree} (told : ∀ t ∈ ts, t.Tells mode)
    (left : ∀ t ∈ ts, t.Concrete) (right : ∀ u ∈ us, u.Concrete) :
    (ts.length = us.length ∧ (ts.zip us).all
        (fun pair => structural mode pair.1.descriptor pair.2.descriptor) = true) ↔
      ts.map compared = us.map compared := by
  induction ts generalizing us with
  | nil => cases us <;> simp
  | cons t ts ih =>
      cases us with
      | nil => simp
      | cons u us =>
          have heads := told t (.head ts) (left t (.head ts)) u (right u (.head us))
          have tails := ih (fun e member => told e (.tail t member))
            (fun e member => left e (.tail t member)) (fun e member => right e (.tail u member))
          rw [List.map_cons, List.map_cons, List.cons.injEq, ← heads, ← tails]
          simp only [List.length_cons, List.zip_cons_cons, List.all_cons, Bool.and_eq_true,
            Nat.add_right_cancel_iff]
          exact and_left_comm

theorem tells_of_elements (told : ∀ ts, t.elements? = some ts →
    ts.1.Tells mode ∧ ∀ e ∈ ts.2, e.Tells mode) : t.Tells mode := by
  intro left u right
  rw [structural_descriptor left right]
  cases leftParts : t.elements? with
  | none =>
      cases rightParts : u.elements? with
      | none =>
          rw [compared_of_simple leftParts, compared_of_simple rightParts]
          simp only [Bool.and_eq_true, beq_iff_eq]
          constructor
          · rintro ⟨-, same⟩
            exact signature_injective same
          · rintro rfl
            exact ⟨rfl, rfl⟩
      | some us => exact ⟨nofun, fun same => absurd same (compared_ne leftParts rightParts)⟩
  | some ts =>
      cases rightParts : u.elements? with
      | none => exact ⟨nofun, fun same => absurd same.symm (compared_ne rightParts leftParts)⟩
      | some us =>
          obtain ⟨first, rest⟩ := ts
          obtain ⟨other, others⟩ := us
          obtain ⟨headTold, tailTold⟩ := told _ leftParts
          obtain ⟨leftHead, leftTail⟩ := left.elements leftParts
          obtain ⟨rightHead, rightTail⟩ := right.elements rightParts
          rw [compared_of_elements? leftParts, compared_of_elements? rightParts,
            iterate_pointer_tuple_inj, ← headTold leftHead other rightHead,
            ← all_zip_iff tailTold leftTail rightTail]
          simp only [Bool.and_eq_true, beq_iff_eq]
          constructor
          · rintro ⟨⟨⟨markers, lengths⟩, heads⟩, tails⟩
            exact ⟨markers, heads, lengths, tails⟩
          · rintro ⟨markers, heads, lengths, tails⟩
            exact ⟨⟨⟨markers, lengths⟩, heads⟩, tails⟩

theorem tells (t : TypeTree) (mode : Leniency) : t.Tells mode := by
  -- A marker has the elements of the tuple behind it, so both are carried along.
  have whole : t.Tells mode ∧
      ∀ ts, t.elements? = some ts → ts.1.Tells mode ∧ ∀ e ∈ ts.2, e.Tells mode := by
    induction t with
    | name => exact ⟨tells_of_elements nofun, nofun⟩
    | pointer t ih => exact ⟨tells_of_elements ih.2, ih.2⟩
    | array t ih => exact ⟨tells_of_elements ih.2, ih.2⟩
    | slice t ih => exact ⟨tells_of_elements ih.2, ih.2⟩
    | map => exact ⟨tells_of_elements nofun, nofun⟩
    | tuple first rest firstIh restIh =>
        have parts : ∀ ts, (tuple first rest).elements? = some ts →
            ts.1.Tells mode ∧ ∀ e ∈ ts.2, e.Tells mode := by
          rintro ts elements
          cases elements
          exact ⟨firstIh.1, fun e member => (restIh e member).1⟩
        exact ⟨tells_of_elements parts, parts⟩
  exact whole.1

end TypeTree

namespace TypeExpr

/-- **What types meet if no name in them has a special place**, in every mode: those of
which the same is left for the comparison.  So types that are the same meet; and types
that meet are the same where tuples stand behind pointers only. -/
theorem structural_iff (mode : Leniency) {left right : List Char} {t u : TypeTree}
    {d e : Descriptor} (leftDerives : Derives left t) (rightDerives : Derives right u)
    (leftConcrete : t.Concrete) (rightConcrete : u.Concrete) (leftReads : read left = .ok d)
    (rightReads : read right = .ok e) :
    (structural mode d e = true ↔ t.compared = u.compared) ∧
      (d.signature = e.signature ∧ d.category = e.category → structural mode d e = true) ∧
      (t.TuplesBare → u.TuplesBare → structural mode d e = true →
        d.signature = e.signature ∧ d.category = e.category) := by
  rw [leftDerives.read_eq] at leftReads
  rw [rightDerives.read_eq] at rightReads
  cases leftReads
  cases rightReads
  have told := t.tells mode leftConcrete u rightConcrete
  refine ⟨told, ?_, ?_⟩
  · rintro ⟨same, -⟩
    exact told.2 (congrArg TypeTree.compared (TypeTree.signature_injective same))
  · intro leftBare rightBare meets
    have same := told.1 meets
    rw [leftBare.compared_eq, rightBare.compared_eq] at same
    rw [same]
    exact ⟨rfl, rfl⟩

/-- A tuple of one element. -/
def single : TypeTree := .tuple (.name ⟨"i32", by decide, by decide⟩) []

theorem derives_single : Derives "(i32)".toList single := by
  have text : "(i32)".toList = '(' :: "i32".toList ++ [')'] := rfl
  rw [text]
  exact (Body.tuple (.last (Body.name ⟨"i32", _, _⟩).derives)).derives

theorem concrete_single : single.Concrete := .tuple (.name (by decide)) nofun

theorem tuplesBare_single : single.TuplesBare := .tuple (.name _) nofun

/-- A tuple and a pointer to it do not meet, in the most lenient mode. -/
theorem structural_iff_pointer_to_single :
    ∃ d e, read "*(i32)".toList = .ok d ∧ read "(i32)".toList = .ok e ∧
      structural { ignoreAny := false, allowAssign := true } d e = false := by
  have pointed : Derives "*(i32)".toList (.pointer single) := by
    have text : "*(i32)".toList = '*' :: "(i32)".toList := rfl
    rw [text]
    exact (Body.pointer derives_single).derives
  obtain ⟨told, -, -⟩ := structural_iff { ignoreAny := false, allowAssign := true } pointed
    derives_single (.pointer concrete_single) concrete_single pointed.read_eq derives_single.read_eq
  refine ⟨_, _, pointed.read_eq, derives_single.read_eq, ?_⟩
  have bare : (TypeTree.pointer single).TuplesBare := .pointer tuplesBare_single
  rw [tuplesBare_single.compared_eq, bare.compared_eq] at told
  exact Bool.eq_false_iff.2 fun meets => nomatch told.1 meets

/-- An array of tuples meets the tuple. -/
theorem structural_array_of_single :
    ∃ d e, read "[](i32)".toList = .ok d ∧ read "(i32)".toList = .ok e ∧
      (∀ mode, structural mode d e = true) ∧ d.signature ≠ e.signature := by
  have listed : Derives "[](i32)".toList (.array single) := by
    have text : "[](i32)".toList = '[' :: ']' :: "(i32)".toList := rfl
    rw [text]
    exact (Body.array derives_single).derives
  refine ⟨_, _, listed.read_eq, derives_single.read_eq, ?_, ?_⟩
  · intro mode
    have told := (TypeTree.array single).tells mode (.array concrete_single) single concrete_single
    have left : (TypeTree.array single).compared = single.compared.core := by
      rw [TypeTree.compared]
      rfl
    rw [told, left, tuplesBare_single.compared_eq]
    rfl
  · intro same
    have trees := TypeTree.signature_injective same
    cases trees

end TypeExpr

end BinarySolver
