/-
# BinarySolver.Proofs.AliasedEquality -- equality of operands of one expansion

Two operands whose types have one expansion select one rule, at the end of one choice
(`settled_of_coaliased`), and they are asked for equality like two operands of the expanded
type, unless the rule compares signatures: then they are refused as strangers if the types
do not meet (`kinds_settle_of_outline`).  **`solve_coaliased`** joins this with the
comparison by structure.
-/
import Mathlib.Data.List.Find
import BinarySolver.Proofs.AliasedMeeting
import BinarySolver.Proofs.Exchange

namespace BinarySolver

set_option autoImplicit false

open Descriptor

/-! ## One rule for one type -/

namespace Handler

/-- The rule that two operands of one type select, unless the operator is logical. -/
def ofType (d : Descriptor) : Option Handler :=
  (priority.find? fun entry => entry.2 d).map Prod.fst

/-- The rules that compare the signatures of the types of their operands. -/
def comparesSignatures : Handler → Bool
  | array | slice | pointer | struct | trait | bool => true
  | _ => false

/-- All that the choice of a rule asks of a type is shown by its outline. -/
theorem asked_of_outline {d e : Descriptor} (same : SameOutline d e) :
    ∀ entry ∈ priority, entry.2 d = entry.2 e := by
  have plain : ∀ f : Category → Bool,
      (d.isPlain && f d.category) = (e.isPlain && f e.category) := by
    intro f
    rw [same.isPlain, same.category]
  simp only [priority, List.forall_mem_cons]
  exact ⟨same.isA .fn, same.array, same.slice, same.isPointer, same.isA .enum, same.isA .struct,
    same.isA .trait, same.isA .nil, same.isA .any, same.isA .bool, same.isA .str,
    plain Category.isFloat, plain Category.isUnsignedInteger, plain Category.isSignedNumeric,
    List.forall_mem_nil _⟩

theorem ofType_of_outline {d e : Descriptor} (same : SameOutline d e) : ofType d = ofType e := by
  rw [ofType, ofType, List.find?_congr (asked_of_outline same)]

theorem select_of_outline {o : Operation} (logical : o.op.isLogical = false)
    (same : SameOutline o.left.type o.right.type) : select o = ofType o.left.type := by
  have asked : ∀ entry ∈ priority, o.either entry.2 = entry.2 o.left.type := by
    intro entry member
    rw [Operation.either, ← asked_of_outline same entry member, Bool.or_self]
  rw [select, logical, ofType, List.find?_congr asked]
  rfl

/-- Operands of one outline are both of the kind that their rule is for. -/
theorem kind_of_select {o : Operation} (same : SameOutline o.left.type o.right.type)
    {h : Handler} {p : Descriptor → Bool} (selected : select o = some h)
    (entry : (h, p) ∈ priority) : p o.left.type = true ∧ p o.right.type = true := by
  have alike : p o.left.type = p o.right.type := asked_of_outline same (h, p) entry
  have either := either_of_select selected entry
  rw [Operation.either, ← alike, Bool.or_self] at either
  exact ⟨either, alike ▸ either⟩

end Handler

/-! ## The errors of an equality -/

namespace Solver

/-- The errors that an equality of two operands of one type meets, by the rule for the type. -/
def equalityErrors : Option Handler → List DiagnosticKind
  | some .function => [.incompatibleTypes]
  | none | some .enum => [.operatorNotForType]
  | _ => []

section Equality

variable {s : Solver} {o : Operation}

theorem kinds_pointerRule_of_isEquality (equality : o.op.isEquality = true) :
    (s.pointerRule o).kinds = if !s.meets o true then [.incompatibleTypes] else [] := by
  rw [pointerRule_of_isEquality equality, apply_ite Ruling.kinds]
  rfl

theorem kinds_nilRule_of_isEquality (equality : o.op.isEquality = true) :
    (s.nilRule o).kinds = if !s.meets o false then [.incompatibleTypes] else [] := by
  have known : ∀ b, (knownTruth o b).kinds = [] := fun _ => rfl
  simp only [nilRule, apply_ite Ruling.kinds, kinds_incompatible]
  generalize o.op = op at equality
  cases op <;> first | rfl | cases equality

theorem kinds_booleanRule_of_isEquality (equality : o.op.isEquality = true) :
    (s.booleanRule o).kinds = if !s.meets o true then [.incompatibleTypes] else [] := by
  simp only [booleanRule, equality, apply_ite Ruling.kinds, kinds_incompatible, kinds_fold,
    if_true]

theorem kinds_stringRule_of_isEquality (equality : o.op.isEquality = true)
    (category : o.left.type.category = o.right.type.category) : (stringRule o).kinds = [] := by
  have add : (o.op == .add) = false := BinaryOp.beq_eq_false_of_property equality rfl
  simp only [stringRule, category, bne_self_eq_false, add, equality, Bool.false_eq_true, if_false,
    if_true, kinds_fold]

theorem kinds_integerRule_of_isEquality (equality : o.op.isEquality = true)
    (left : o.left.type.isNumeric = true) (right : o.right.type.isNumeric = true) :
    (s.integerRule o).kinds = [] := by
  have comparison := BinaryOp.isComparison_of_isEquality equality
  have shift := BinaryOp.isShift_of_isComparison comparison
  simp only [integerRule, left, right, shift, comparison, kinds_fold, Bool.and_self,
    Bool.not_true, Bool.false_eq_true, if_false, if_true]

theorem kinds_floatRule_of_isEquality (equality : o.op.isEquality = true)
    (left : o.left.type.isNumeric = true) (right : o.right.type.isNumeric = true) :
    (s.floatRule o).kinds = [] := by
  have comparison := BinaryOp.isComparison_of_isEquality equality
  have rem : (o.op == .rem) = false := BinaryOp.beq_eq_false_of_property equality rfl
  simp only [floatRule, left, right, rem, comparison, kinds_fold, Bool.and_self, Bool.not_true,
    Bool.false_and, Bool.false_eq_true, if_false]

/-- Operands of one outline are equal or not like operands of one type, unless their rule
compares signatures: then they are strangers to each other if they do not meet. -/
theorem kinds_settle_of_outline (config : Config) (equality : o.op.isEquality = true)
    (same : SameOutline o.left.type o.right.type)
    (left : o.left.type.aliasOf = none) (right : o.right.type.aliasOf = none) :
    ((ofConfig config).settle o).kinds =
      if (Handler.select o).any Handler.comparesSignatures &&
          !structural ⟨true, true⟩ o.left.type o.right.type then [.incompatibleTypes]
      else equalityErrors (Handler.select o) := by
  have meets : ∀ ignoreAny, (ofConfig config).meets o ignoreAny =
      structural ⟨ignoreAny, true⟩ o.left.type o.right.type := fun _ => rfl
  have compared : ∀ mode, o.left.type.isPlain = true → structural mode o.left.type o.right.type =
      (mode.waives o.left.type || o.left.type.signature == o.right.type.signature) := by
    intro mode plain
    have outline : SameOutline o.left.type.resolve o.right.type.resolve := by
      rwa [resolve_of_aliasOf left, resolve_of_aliasOf right]
    have named := structural_of_outline mode outline
    rw [resolve_of_aliasOf left, resolve_of_aliasOf right] at named
    exact named (multi_of_isPlain plain)
  unfold settle
  cases selected : Handler.select o with
  | none => rfl
  | some handler =>
      have kind : ∀ {p : Descriptor → Bool}, (handler, p) ∈ Handler.priority →
          p o.left.type = true ∧ p o.right.type = true := Handler.kind_of_select same selected
      cases handler with
      | logical =>
          have logical := Handler.isLogical_of_select selected
          rw [BinaryOp.isLogical_of_isComparison
            (BinaryOp.isComparison_of_isEquality equality)] at logical
          cases logical
      | function =>
          obtain ⟨leftKind, rightKind⟩ := kind (p := isFunc) (by simp [Handler.priority])
          have noNil : o.either isNil = false :=
            Operation.either_eq_false (isA_of_isA leftKind (by decide))
              (isA_of_isA rightKind (by decide))
          rw [functionRule, kinds_equality, noNil]
          rfl
      | array | slice =>
          rw [sequenceRule, kinds_equality, if_pos equality, meets]
          rfl
      | pointer =>
          rw [kinds_pointerRule_of_isEquality equality, meets]
          rfl
      | enum => rfl
      | struct =>
          obtain ⟨struct, -⟩ := kind (p := isStruct) (by simp [Handler.priority])
          have named : Leniency.waives ⟨true, true⟩ o.left.type = false := by
            simp [Leniency.waives, isNil, isVoidptr, isA_of_isA struct]
          have signatures := compared ⟨true, true⟩ (isA_iff.1 struct).2
          rw [named, Bool.false_or] at signatures
          rw [structRule, kinds_equality, if_pos equality, signatures]
          rfl
      | trait =>
          rw [traitRule, kinds_equality, if_pos equality, meets]
          rfl
      | nil =>
          obtain ⟨nil, -⟩ := kind (p := isNil) (by simp [Handler.priority])
          have waived : Leniency.waives ⟨false, true⟩ o.left.type = true := by
            simp [Leniency.waives, nil]
          rw [kinds_nilRule_of_isEquality equality, meets, compared _ (isA_iff.1 nil).2, waived]
          rfl
      | any =>
          rw [anyRule, if_pos equality]
          rfl
      | bool =>
          rw [kinds_booleanRule_of_isEquality equality, meets]
          rfl
      | str =>
          rw [kinds_stringRule_of_isEquality equality same.category]
          rfl
      | float =>
          obtain ⟨leftKind, rightKind⟩ := kind (p := isFloat) (by simp [Handler.priority])
          rw [kinds_floatRule_of_isEquality equality (isNumeric_of_isFloat leftKind)
            (isNumeric_of_isFloat rightKind)]
          rfl
      | unsigned =>
          obtain ⟨leftKind, rightKind⟩ := kind (p := isUnsignedInteger) (by simp [Handler.priority])
          rw [kinds_integerRule_of_isEquality equality (isNumeric_of_isUnsignedInteger leftKind)
            (isNumeric_of_isUnsignedInteger rightKind)]
          rfl
      | signed =>
          obtain ⟨leftKind, rightKind⟩ := kind (p := isSignedNumeric) (by simp [Handler.priority])
          rw [kinds_integerRule_of_isEquality equality (isNumeric_of_isSignedNumeric leftKind)
            (isNumeric_of_isSignedNumeric rightKind)]
          rfl

end Equality

end Solver

/-! ## Behind enums -/

namespace Descriptor

/-- What stands behind all enums and aliases has one expansion if the types have. -/
theorem Coaliased.unwrap {l r : Descriptor} (same : Coaliased l r) :
    Coaliased l.unwrap r.unwrap := by
  rcases same.underlying with ⟨left, right⟩ | ⟨u, v, left, right, inner⟩
  · rw [unwrap_of_underlying?_eq_none left, unwrap_of_underlying?_eq_none right]
    exact same.resolve
  · have smaller := size_resolve_le l
    have inside := size_underlying?_lt left
    rw [unwrap_of_underlying? left, unwrap_of_underlying? right]
    exact inner.unwrap
termination_by l.size

theorem AliasFree.unwrap {d : Descriptor} (free : d.AliasFree) : d.unwrap.AliasFree := by
  cases behind : d.resolve.underlying? with
  | none =>
      rw [unwrap_of_underlying?_eq_none behind, free.resolve_eq]
      exact free
  | some u =>
      have inside := size_underlying?_lt behind
      have whole := size_resolve_le d
      rw [unwrap_of_underlying? behind]
      exact (free.of_underlying? behind).unwrap
termination_by d.size

/-- Where no leaf holds an alias, none is found behind an enum. -/
theorem aliasFree_leaves_unwrap {d : Descriptor} (free : ∀ leaf ∈ d.leaves, leaf.AliasFree) :
    ∀ leaf ∈ d.unwrap.leaves, leaf.AliasFree := by
  cases behind : d.resolve.underlying? with
  | none =>
      rw [unwrap_of_underlying?_eq_none behind, leaves_resolve]
      exact free
  | some u =>
      have enum := isEnum_of_underlying? behind
      have simple := elements?_of_isPlain (isA_iff.1 enum).2
      rw [leaves_of_elements?_eq_none simple] at free
      have whole := free _ (.head _)
      rw [unwrap_of_underlying? behind]
      refine AliasFree.leaves (AliasFree.unwrap (whole.of_underlying? ?_))
      rwa [resolve_resolve]

end Descriptor

namespace Operation

/-- Enums of types of one expansion are taken away from both operands at a time. -/
theorem settled_of_coaliased {o : Operation} (logical : o.op.isLogical = false)
    (same : Coaliased o.left.type o.right.type) (left : o.left.type.aliasOf = none)
    (right : o.right.type.aliasOf = none) : o.settled = o.unwrapped := by
  fun_induction settled o with
  | case1 o p next ih =>
      have leftSelf := resolve_of_aliasOf left
      have rightSelf := resolve_of_aliasOf right
      have unwrapped := unwrapEnums?_of_next? next
      rcases same.underlying with ⟨leftBare, rightBare⟩ | ⟨u, v, leftEnum, rightEnum, inner⟩
      · rw [leftSelf] at leftBare
        rw [rightSelf] at rightBare
        simp [unwrapEnums?, unwrapEnum?, leftBare, rightBare] at unwrapped
      · have leftUnwrap := unwrap_of_underlying? leftEnum
        have rightUnwrap := unwrap_of_underlying? rightEnum
        rw [leftSelf] at leftEnum
        rw [rightSelf] at rightEnum
        have chosen : p = o.retype u.resolve v.resolve := by
          simpa [unwrapEnums?, unwrapEnum?, retype, leftEnum, rightEnum] using unwrapped.symm
        subst chosen
        rw [ih logical inner.resolve (aliasOf_resolve u) (aliasOf_resolve v)]
        show o.retype u.resolve.unwrap v.resolve.unwrap =
          o.retype o.left.type.unwrap o.right.type.unwrap
        rw [unwrap_resolve, unwrap_resolve, leftUnwrap, rightUnwrap]
  | case2 o last =>
      have leftSelf := resolve_of_aliasOf left
      have rightSelf := resolve_of_aliasOf right
      have bare : o.left.type.resolve.underlying? = none ∧
          o.right.type.resolve.underlying? = none := by
        rcases same.underlying with bare | ⟨u, v, leftEnum, rightEnum, -⟩
        · exact bare
        · have leftKind := precedesEnum_of_isEnum (isEnum_of_underlying? leftEnum)
          have rightKind := precedesEnum_of_isEnum (isEnum_of_underlying? rightEnum)
          rw [leftSelf] at leftKind ⊢
          rw [rightSelf] at rightKind ⊢
          exact underlying?_of_last last logical leftKind rightKind
      rw [unwrapped, unwrap_of_underlying?_eq_none bare.1, unwrap_of_underlying?_eq_none bare.2,
        leftSelf, rightSelf]
      rfl

end Operation

/-! ## Equality of values -/

namespace Solver

/-- Two operands of one expansion are asked for equality as two of the expanded type are, unless
their rule compares signatures and they do not meet. -/
theorem kinds_ruling_of_coaliased (config : Config) (left right : Value) (operator : Operator)
    (equality : operator.op.isEquality = true) (same : Coaliased left.type right.type) :
    ((ofConfig config).ruling left right operator).kinds =
      if (Handler.ofType left.type.unwrap).any Handler.comparesSignatures &&
          !structural ⟨true, true⟩ left.type.unwrap right.type.unwrap then [.incompatibleTypes]
      else equalityErrors (Handler.ofType left.type.unwrap) := by
  let o := operation left operator right
  have logical : o.op.isLogical = false :=
    BinaryOp.isLogical_of_isComparison (BinaryOp.isComparison_of_isEquality equality)
  have settled : o.settled = o.unwrapped :=
    Operation.settled_of_coaliased logical same.resolve (aliasOf_resolve _) (aliasOf_resolve _)
  have leftType : o.unwrapped.left.type = left.type.unwrap := unwrap_resolve left.type
  have rightType : o.unwrapped.right.type = right.type.unwrap := unwrap_resolve right.type
  have outline : SameOutline o.unwrapped.left.type o.unwrapped.right.type := by
    have resolved := same.unwrap.outline
    rwa [resolve_of_aliasOf (aliasOf_unwrap _), resolve_of_aliasOf (aliasOf_unwrap _),
      ← leftType, ← rightType] at resolved
  have leftBare : o.unwrapped.left.type.aliasOf = none := by
    rw [leftType]
    exact aliasOf_unwrap _
  have rightBare : o.unwrapped.right.type.aliasOf = none := by
    rw [rightType]
    exact aliasOf_unwrap _
  have asked : o.unwrapped.op.isEquality = true := equality
  have selected : Handler.select o.unwrapped = Handler.ofType o.unwrapped.left.type :=
    Handler.select_of_outline logical outline
  rw [ruling, settled, kinds_settle_of_outline config asked outline leftBare rightBare, selected,
    leftType, rightType]

theorem kinds_errors (s : Solver) (left right : Value) (operator : Operator) (e : Evaluation) :
    (s.errors left operator right e).map Diagnostic.kind =
      (s.ruling left right operator).kinds := by
  rw [errors_eq]
  simp [Ruling.kinds, Ruling.refusals, Diagnostic.content, Function.comp_def]

/-- **Aliases inside of types, and when they are seen.**  An expanded type, one without aliases,
meets itself in every mode, and its values can be asked for equality.  Two types that become
this type when their aliases are replaced meet if and only if their leaves have the same
signatures, pair by pair, or meet under any name.  Two operands of these types meet the errors
that two operands of the expanded type meet, unless the rule for them compares signatures and
they do not meet: then they are incompatible.  Where no leaf holds an alias within, all
aliases are seen through. -/
theorem solve_coaliased (config : Config) {t l r : Descriptor} (expanded : t.AliasFree)
    (left : t.Aliased l) (right : t.Aliased r) :
    (∀ mode, structural mode t t = true ∧
      (structural mode l r = true ↔
        ∀ pair ∈ l.leaves.zip r.leaves,
          pair.1.signature = pair.2.signature ∨ mode.waives pair.1 = true)) ∧
    (∀ (x y a b : Value) (op : BinaryOp) (span span' : Span) (e e' : Evaluation),
      x.type = t → y.type = t → a.type = l → b.type = r → op.isEquality = true →
        ((ofConfig config).errors a ⟨op, span⟩ b e).map Diagnostic.kind =
          if (Handler.ofType t.unwrap).any Handler.comparesSignatures &&
              !structural ⟨true, true⟩ l.unwrap r.unwrap then [.incompatibleTypes]
          else ((ofConfig config).errors x ⟨op, span'⟩ y e').map Diagnostic.kind) ∧
    ((∀ leaf ∈ l.leaves, leaf.AliasFree) → (∀ leaf ∈ r.leaves, leaf.AliasFree) →
      (∀ mode, structural mode l r = true) ∧ structural ⟨true, true⟩ l.unwrap r.unwrap = true) := by
  have self : Coaliased t t := ⟨t, expanded, left.left_self, left.left_self⟩
  have same : Coaliased l r := ⟨t, expanded, left, right⟩
  have first : Coaliased t l := ⟨t, expanded, left.left_self, left⟩
  refine ⟨?_, ?_, ?_⟩
  · exact fun mode => ⟨structural_self self, structural_coaliased same⟩
  · rintro x y a b op span span' e e' rfl typed rfl rfl equality
    have rule : Handler.ofType x.type.unwrap = Handler.ofType a.type.unwrap := by
      have outline := first.unwrap.outline
      rw [resolve_of_aliasOf (aliasOf_unwrap _), resolve_of_aliasOf (aliasOf_unwrap _)] at outline
      exact Handler.ofType_of_outline outline
    have typedSelf : Coaliased x.type y.type := by rwa [typed]
    have expandedKinds := kinds_ruling_of_coaliased config x y ⟨op, span'⟩ equality typedSelf
    rw [typed, structural_self self.unwrap, Bool.not_true, Bool.and_false] at expandedKinds
    rw [kinds_errors, kinds_errors, expandedKinds, rule]
    exact kinds_ruling_of_coaliased config a b ⟨op, span⟩ equality same
  · intro leftLeaves rightLeaves
    exact ⟨fun mode => structural_of_aliasFree_leaves same leftLeaves rightLeaves,
      structural_of_aliasFree_leaves same.unwrap (aliasFree_leaves_unwrap leftLeaves)
        (aliasFree_leaves_unwrap rightLeaves)⟩

/-- A pointer to an alias and an alias of a pointer. -/
theorem solve_coaliased_pointers :
    let t := (Descriptor.scalar .u64).pointerTo
    let l := (Descriptor.aliasTo "Size" (.scalar .u64)).pointerTo
    let r := Descriptor.aliasTo "Ref" t
    t.AliasFree ∧ t.Aliased l ∧ t.Aliased r ∧ (∀ mode, structural mode l r = true) ∧
      ((ofConfig .standard).errors (.runtime l) (.detached .eq) (.runtime r) .empty).map
        Diagnostic.kind = [] := by
  intro t l r
  have free : t.AliasFree := .intro rfl nofun
  have left : t.Aliased l := .pointerTo (.behind (by decide) (.scalar .u64))
  have right : t.Aliased r := .behind (by decide) (.pointerTo (.scalar .u64))
  obtain ⟨-, errors, seen⟩ := solve_coaliased .standard free left right
  have leftLeaves : ∀ leaf ∈ l.leaves, leaf.AliasFree := by
    intro leaf member
    rw [leaves_of_elements?_eq_none rfl, List.mem_singleton] at member
    rw [member]
    exact .intro (aliasOf_resolve l) nofun
  have rightLeaves : ∀ leaf ∈ r.leaves, leaf.AliasFree := by
    intro leaf member
    rw [leaves_of_elements?_eq_none rfl, List.mem_singleton] at member
    rw [member]
    exact .intro (aliasOf_resolve r) nofun
  obtain ⟨meet, unwrapped⟩ := seen leftLeaves rightLeaves
  refine ⟨free, left, right, meet, ?_⟩
  have expanded : ((ofConfig .standard).errors (.runtime t) (.detached .eq) (.runtime t)
      .empty).map Diagnostic.kind = [] := by decide +kernel
  have compared := errors (.runtime t) (.runtime t) (.runtime l) (.runtime r) .eq .detached
    .detached .empty .empty rfl rfl rfl rfl rfl
  rw [unwrapped, Bool.not_true, Bool.and_false] at compared
  exact compared.trans expanded

/-- An alias among the arguments of a name keeps a type from meeting its expansion. -/
theorem structural_vec_of_alias :
    let t := (Descriptor.named .struct "Vec").withGenerics [.scalar .u64]
    let l := (Descriptor.named .struct "Vec").withGenerics [.aliasTo "Size" (.scalar .u64)]
    t.AliasFree ∧ t.Aliased l ∧ t.Aliased t ∧ (∀ mode, structural mode t t = true) ∧
      (∀ mode, structural mode l t = false) ∧
      ((ofConfig .standard).errors (.runtime t) (.detached .eq) (.runtime t) .empty).map
        Diagnostic.kind = [] ∧
      ((ofConfig .standard).errors (.runtime l) (.detached .eq) (.runtime t) .empty).map
        Diagnostic.kind = [.incompatibleTypes] := by
  intro t l
  have vec : Identifier.IsName "Vec" := by decide
  have free : t.AliasFree := by
    refine .intro rfl fun p member => ?_
    rw [List.mem_singleton.1 member]
    exact .intro rfl nofun
  have arguments : ∀ p ∈ [(Descriptor.scalar .u64, Descriptor.aliasTo "Size" (.scalar .u64))],
      Aliased p.1 p.2 := by
    intro p member
    rw [List.mem_singleton.1 member]
    exact .behind (by decide) (.scalar .u64)
  have left : t.Aliased l := .withGenerics .struct vec arguments
  have self : Coaliased t t := ⟨t, free, left.left_self, left.left_self⟩
  have apart : ∀ mode, structural mode l t = false := by
    intro mode
    have named : Leniency.waives mode l = false := by
      cases mode
      rename_i ignoreAny allowAssign
      cases ignoreAny <;> cases allowAssign <;> decide
    rw [structural_of_outline mode left.counterpart.outline.symm rfl]
    exact Bool.or_eq_false_iff.2 ⟨named, by decide⟩
  refine ⟨free, left, left.left_self, fun mode => structural_self self, apart, ?_, ?_⟩
  · decide +kernel
  · decide +kernel

end Solver

end BinarySolver
