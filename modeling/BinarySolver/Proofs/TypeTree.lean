/-
# BinarySolver.Proofs.TypeTree -- the trees that type expressions stand for

A type expression is a tree: names are its leaves, and pointers, arrays, slices, maps
and tuples its nodes.  A name carries the proof that it may be written, and a tuple has
a first element, so every tree is a type.  `TypeTree.descriptor` builds the type by the
constructors of `Descriptor`, one a node; `TypeTree.signature` is the text of it, as
`signature_descriptor` says, without a descriptor in between.
-/
import Mathlib.Data.List.Basic
import BinarySolver.TypeExpr
import BinarySolver.Proofs.Shape

namespace BinarySolver

set_option autoImplicit false

/-! ## Names -/

/-- One of `[A-Za-z_]`. -/
def IsLetter (c : Char) : Prop := ('A' ≤ c ∧ c ≤ 'Z') ∨ ('a' ≤ c ∧ c ≤ 'z') ∨ c = '_'

/-- One of `[A-Za-z0-9_]`. -/
def IsLetterOrDigit (c : Char) : Prop := IsLetter c ∨ ('0' ≤ c ∧ c ≤ '9')

/-- An ASCII identifier. -/
def IsIdentifier : List Char → Prop
  | [] => False
  | c :: cs => IsLetter c ∧ ∀ d ∈ cs, IsLetterOrDigit d

/-- The names of categories that need more than a name. -/
def reservedNames : List String := ["struct", "enum", "trait", "map", "id"]

/-- A name that is a type. -/
structure TypeName where
  text : String
  isIdentifier : IsIdentifier text.toList
  unreserved : text ∉ reservedNames

theorem isNameStart_iff {c : Char} : TypeExpr.isNameStart c = true ↔ IsLetter c := by
  have upper : c.isUpper = true ↔ 'A' ≤ c ∧ c ≤ 'Z' := decide_eq_true_iff
  have lower : c.isLower = true ↔ 'a' ≤ c ∧ c ≤ 'z' := by
    refine (Bool.and_eq_true_iff).trans ?_
    rw [decide_eq_true_eq, decide_eq_true_eq]
    rfl
  have alpha : c.isAlpha = (c.isUpper || c.isLower) := rfl
  simp only [TypeExpr.isNameStart, alpha, IsLetter, Bool.or_eq_true, upper, lower, beq_iff_eq,
    or_assoc]

theorem isNamePart_iff {c : Char} : TypeExpr.isNamePart c = true ↔ IsLetterOrDigit c := by
  simp only [TypeExpr.isNamePart, Char.isDigit, IsLetterOrDigit, Bool.or_eq_true,
    isNameStart_iff, decide_eq_true_eq, Bool.and_eq_true, Char.le_def, ge_iff_le]

theorem isName_iff {text : List Char} : TypeExpr.isName text = true ↔ IsIdentifier text := by
  cases text with
  | nil => simp [TypeExpr.isName, IsIdentifier]
  | cons c cs =>
      simp only [TypeExpr.isName, IsIdentifier, Bool.and_eq_true, isNameStart_iff,
        List.all_eq_true, isNamePart_iff]

instance : DecidablePred IsIdentifier := fun _ => decidable_of_iff _ isName_iff

theorem toNat_bounds {c : Char} (letter : IsLetterOrDigit c) : 0x30 ≤ c.toNat ∧ c.toNat ≤ 0x7A := by
  rcases letter with (⟨low, high⟩ | ⟨low, high⟩ | rfl) | ⟨low, high⟩
  · exact ⟨Nat.le_trans (by decide) low, Nat.le_trans high (by decide)⟩
  · exact ⟨Nat.le_trans (by decide) low, Nat.le_trans high (by decide)⟩
  · decide
  · exact ⟨Nat.le_trans (by decide) low, Nat.le_trans high (by decide)⟩

namespace Category

/-- What a name alone can be, functions apart. -/
def IsScalar (c : Category) : Prop := c ∉ [fn, struct, enum, trait, map, id]

instance (c : Category) : Decidable c.IsScalar := by unfold IsScalar; infer_instance

/-- A category is found by its name. -/
theorem ofName?_eq_some_iff {text : String} {c : Category} :
    ofName? text = some c ↔ c.name = text := by
  refine ⟨fun known => ?_, fun named => named ▸ ofName?_name c⟩
  have found := List.find?_some known
  simpa using found

theorem ofName?_eq_none_iff {text : String} :
    ofName? text = none ↔ ∀ c : Category, c.name ≠ text := by
  simp only [Option.eq_none_iff_forall_ne_some, ne_eq, ofName?_eq_some_iff]

theorem name_injective {c d : Category} (same : c.name = d.name) : c = d :=
  Option.some.inj ((ofName?_name c).symm.trans (ofName?_eq_some_iff.2 same.symm))

theorem isScalar_of_name {c : Category} (unreserved : c.name ∉ reservedNames)
    (other : c ≠ .fn) : c.IsScalar := by
  revert unreserved other
  cases c <;> decide

end Category

namespace TypeName

variable {n m : TypeName}

theorem ext (same : n.text = m.text) : n = m := by
  cases n
  cases m
  cases same
  rfl

/-- The name of a category gives that scalar, `fn` a function of nothing that returns
nothing, and any other name a structure. -/
inductive Gives (n : TypeName) : Descriptor → Prop
  | scalar (c : Category) (named : c.name = n.text) (scalar : c.IsScalar) : Gives n (.scalar c)
  | function (known : n.text = "fn") : Gives n (.function [] .void)
  | struct (other : ∀ c : Category, c.name ≠ n.text) : Gives n (.named .struct n.text)

/-- Every name gives a type, since the names of the categories that need more than a name
are reserved. -/
def type (n : TypeName) : { d : Descriptor // n.Gives d } :=
  match known : Category.ofName? n.text with
  | some c =>
    have named : c.name = n.text := Category.ofName?_eq_some_iff.1 known
    if function : c = .fn then
      ⟨.function [] .void, .function (named.symm.trans (congrArg Category.name function))⟩
    else ⟨.scalar c, .scalar c named (Category.isScalar_of_name (named ▸ n.unreserved) function)⟩
  | none => ⟨.named .struct n.text, .struct (Category.ofName?_eq_none_iff.1 known)⟩

/-- The type that a name gives. -/
def descriptor (n : TypeName) : Descriptor := n.type.1

theorem gives_descriptor (n : TypeName) : n.Gives n.descriptor := n.type.2

/-- The text of the type that a name gives: that of a function shows its parameters. -/
def signature (n : TypeName) : List Char :=
  n.text.toList ++ if n.text = "fn" then ['(', ')'] else []

theorem Gives.signature_eq {d : Descriptor} (gives : n.Gives d) :
    d.signature.toList = n.signature := by
  unfold signature
  cases gives with
  | scalar c named scalar =>
      have other : n.text ≠ "fn" := by
        intro function
        obtain rfl : c = .fn := Category.name_injective (named.trans function)
        exact absurd scalar (by decide)
      rw [if_neg other, List.append_nil, ← named]
      rfl
  | function known =>
      rw [if_pos known, known]
      decide
  | struct other =>
      have notFunction : n.text ≠ "fn" := fun function => other .fn function.symm
      rw [if_neg notFunction, List.append_nil]
      rfl

theorem Gives.aliasOf_eq {d : Descriptor} (gives : n.Gives d) : d.aliasOf = none := by
  cases gives <;> rfl

theorem Gives.elements?_eq {d : Descriptor} (gives : n.Gives d) : d.elements? = none := by
  cases gives <;> rfl

end TypeName

/-! ## Trees -/

/-- Every text but the first stands behind a separator. -/
theorem Text.toList_joined_cons (separator text : String) (texts : List String) :
    (Text.joined separator (text :: texts)).toList =
      text.toList ++ texts.flatMap fun t => separator.toList ++ t.toList := by
  induction texts generalizing text with
  | nil => simp [Text.joined]
  | cons next texts ih => simp [Text.joined, ih]

/-- A list is told by its image if each of its elements is. -/
theorem map_inj_of_mem {α β : Type} {f : α → β} {as bs : List α}
    (told : ∀ a ∈ as, ∀ b, f a = f b → a = b) (same : as.map f = bs.map f) : as = bs := by
  induction as generalizing bs with
  | nil => exact (List.map_eq_nil_iff.1 same.symm).symm
  | cons a as ih =>
      cases bs with
      | nil => cases same
      | cons b bs =>
          obtain ⟨heads, tails⟩ := List.cons.inj same
          rw [told a (.head as) b heads, ih (fun c member => told c (.tail a member)) tails]

inductive TypeTree where
  | name (n : TypeName)
  | pointer (target : TypeTree)
  | array (element : TypeTree)
  | slice (element : TypeTree)
  | map (key value : TypeTree)
  | tuple (first : TypeTree) (rest : List TypeTree)

namespace TypeTree

/-- Induction on trees, with the property for all elements of a tuple. -/
@[induction_eliminator]
theorem recOn_elements {motive : TypeTree → Prop} (name : ∀ n, motive (.name n))
    (pointer : ∀ t, motive t → motive (.pointer t)) (array : ∀ t, motive t → motive (.array t))
    (slice : ∀ t, motive t → motive (.slice t))
    (map : ∀ key value, motive key → motive value → motive (.map key value))
    (tuple : ∀ first rest, motive first → (∀ t ∈ rest, motive t) → motive (.tuple first rest)) :
    ∀ t, motive t
  | .name n => name n
  | .pointer t => pointer t (recOn_elements name pointer array slice map tuple t)
  | .array t => array t (recOn_elements name pointer array slice map tuple t)
  | .slice t => slice t (recOn_elements name pointer array slice map tuple t)
  | .map key value =>
      map key value (recOn_elements name pointer array slice map tuple key)
        (recOn_elements name pointer array slice map tuple value)
  | .tuple first rest =>
      tuple first rest (recOn_elements name pointer array slice map tuple first)
        fun t _ => recOn_elements name pointer array slice map tuple t

/-- The type of a tree. -/
def descriptor : TypeTree → Descriptor
  | name n => n.descriptor
  | pointer t => .pointerTo t.descriptor
  | array t => .arrayOf t.descriptor
  | slice t => .sliceOf t.descriptor
  | map key value => .map key.descriptor value.descriptor
  | tuple first rest => .tuple (first.descriptor :: rest.map descriptor)

/-- The text of the type of a tree. -/
def signature : TypeTree → List Char
  | name n => n.signature
  | pointer t => '*' :: t.signature
  | array t => '[' :: ']' :: t.signature
  | slice t => '[' :: ':' :: ']' :: t.signature
  | map key value => '[' :: key.signature ++ ':' :: value.signature ++ [']']
  | tuple first rest =>
    '(' :: first.signature ++ rest.flatMap (fun t => ',' :: ' ' :: t.signature) ++ [')']

/-- No part of a type expression is an alias. -/
theorem aliasOf_descriptor (t : TypeTree) : t.descriptor.aliasOf = none := by
  induction t with
  | name n =>
      rw [descriptor]
      exact n.gives_descriptor.aliasOf_eq
  | pointer t ih | array t ih | slice t ih =>
      rw [descriptor]
      exact ih
  | map | tuple =>
      rw [descriptor]
      rfl

/-- The text of a type is put together from the texts of its parts. -/
theorem signature_descriptor (t : TypeTree) : t.descriptor.signature.toList = t.signature := by
  induction t with
  | name n =>
      rw [descriptor, signature]
      exact n.gives_descriptor.signature_eq
  | pointer t ih =>
      rw [descriptor, signature, Descriptor.pointerTo, Descriptor.toList_signature_marked, ih]
      rfl
  | array t ih =>
      rw [descriptor, signature, Descriptor.arrayOf, Descriptor.toList_signature_marked, ih]
      rfl
  | slice t ih =>
      rw [descriptor, signature, Descriptor.sliceOf, Descriptor.toList_signature_marked, ih]
      rfl
  | map key value keyIh valueIh =>
      rw [descriptor, signature, Descriptor.toList_signature_map, keyIh, valueIh]
  | tuple first rest firstIh restIh =>
      have parts : rest.flatMap (fun t => ", ".toList ++ t.descriptor.signature.toList) =
          rest.flatMap fun t => ',' :: ' ' :: t.signature := by
        refine List.flatMap_congr fun t member => ?_
        rw [restIh t member]
        rfl
      rw [descriptor, signature, Descriptor.toList_signature_tuple, Descriptor.signatureList,
        List.map_cons, List.map_map, Text.toList_joined_cons, firstIh, List.flatMap_map]
      exact congrArg (fun text => '(' :: (first.signature ++ text) ++ [')']) parts

/-- A type that shows neither markers nor brackets is given by a name. -/
theorem exists_gives_of_isPlain {t : TypeTree} (plain : t.descriptor.isPlain = true) :
    ∃ n : TypeName, n.Gives t.descriptor := by
  have front : ∀ {c : Char} {text : List Char}, t.descriptor.signature.toList = c :: text →
      c ≠ '*' ∧ c ≠ '[' := by
    intro c text starts
    simp only [Descriptor.isPlain, Descriptor.startsWith, starts, List.head?_cons,
      Bool.and_eq_true, Bool.not_eq_true', beq_eq_false_iff_ne, ne_eq, Option.some_inj] at plain
    exact ⟨plain.1.2, plain.2⟩
  have text := signature_descriptor t
  cases t with
  | name n =>
      rw [descriptor]
      exact ⟨n, n.gives_descriptor⟩
  | pointer => exact absurd rfl (front (by rw [text, signature])).1
  | array | slice => exact absurd rfl (front (by rw [text, signature])).2
  | map => exact absurd rfl (front (by rw [text, signature, List.cons_append, List.cons_append])).2
  | tuple =>
      rw [descriptor] at plain
      cases plain

/-! ### Tuples behind markers -/

/-- The elements of a tuple, the first apart, whatever markers stand in front of it. -/
def elements? : TypeTree → Option (TypeTree × List TypeTree)
  | name _ => none
  | pointer t => t.elements?
  | array t => t.elements?
  | slice t => t.elements?
  | map _ _ => none
  | tuple first rest => some (first, rest)

theorem elements?_descriptor (t : TypeTree) :
    t.descriptor.elements? =
      t.elements?.map fun es => es.1.descriptor :: es.2.map descriptor := by
  induction t with
  | name n =>
      rw [descriptor]
      exact n.gives_descriptor.elements?_eq
  | pointer t ih | array t ih | slice t ih =>
      rw [descriptor]
      exact ih
  | map | tuple =>
      rw [descriptor]
      rfl

/-- No array or slice stands among the markers in front of a tuple, at any depth. -/
inductive TuplesBare : TypeTree → Prop
  | name (n : TypeName) : TuplesBare (.name n)
  | pointer {t : TypeTree} (target : TuplesBare t) : TuplesBare (.pointer t)
  | array {t : TypeTree} (simple : t.elements? = none) (element : TuplesBare t) :
      TuplesBare (.array t)
  | slice {t : TypeTree} (simple : t.elements? = none) (element : TuplesBare t) :
      TuplesBare (.slice t)
  | map {key value : TypeTree} (left : TuplesBare key) (right : TuplesBare value) :
      TuplesBare (.map key value)
  | tuple {first : TypeTree} {rest : List TypeTree} (head : TuplesBare first)
      (tail : ∀ t ∈ rest, TuplesBare t) : TuplesBare (.tuple first rest)

end TypeTree

end BinarySolver
