/-
# BinarySolver.Proofs.Transparency -- enums are solved as what they stand for

The rule for enums takes one type from behind each operand and chooses again, so operands
of different depths go through different choices.  They end where the operands end from
which all enums have been taken at once (`Operation.settled_unwrapped`), if no choice on
the way is decided by a kind that is looked for before enums are.  So nothing that is
solved or reported tells an enum from the type that it stands for (`solve_behindEnums`).
-/
import BinarySolver.Proofs.Settle

namespace BinarySolver

set_option autoImplicit false

namespace Descriptor

variable {d u : Descriptor}

/-- A number, a truth value or a text. -/
def isBasic (d : Descriptor) : Bool := d.isNumeric || d.isBool || d.isStr

/-- Of a kind that is looked for before enums are. -/
def precedesEnum (d : Descriptor) : Bool := d.isFunc || d.isArray || d.isSlice || d.isPointer

/-- The type behind enums and the aliases between them; what stands behind no enum is
left as it is, an alias as well. -/
def behindEnums (d : Descriptor) : Descriptor :=
  match _h : d.resolve.underlying? with
  | some u => u.behindEnums
  | none => d
termination_by d.size
decreasing_by exact Nat.lt_of_lt_of_le (size_underlying?_lt _h) (size_resolve_le d)

theorem behindEnums_of_underlying? (behind : d.resolve.underlying? = some u) :
    d.behindEnums = u.behindEnums := by
  rw [behindEnums]
  split
  · rename_i v other
    rw [behind] at other
    cases other
    rfl
  · rename_i other
    rw [behind] at other
    cases other

theorem resolve_behindEnums (d : Descriptor) : d.behindEnums.resolve = d.unwrap := by
  fun_induction behindEnums d with
  | case1 d u behind ih => exact ih.trans (unwrap_of_underlying? behind).symm
  | case2 d bare => exact (unwrap_of_underlying?_eq_none bare).symm

theorem precedesEnum_of_isPlain (plain : d.isPlain = true) (function : d.category ≠ .fn)
    (voidptr : d.category ≠ .voidptr) : d.precedesEnum = false := by
  have bare := startsWith_bracket_of_isPlain plain
  simp [precedesEnum, isFunc, isA_of_isPlain plain, isArray_of_startsWith bare,
    isSlice_of_startsWith bare, isPointer_of_isPlain plain, function, voidptr]

theorem precedesEnum_of_isEnum (enum : d.isEnum = true) : d.precedesEnum = false := by
  obtain ⟨category, plain⟩ := isA_iff.1 enum
  apply precedesEnum_of_isPlain plain <;> simp [category]

theorem precedesEnum_of_isBasic (basic : d.isBasic = true) : d.precedesEnum = false := by
  simp only [isBasic, Bool.or_eq_true] at basic
  rcases basic with (number | truth) | text
  · obtain ⟨plain, category⟩ := isNumeric_iff.1 number
    apply precedesEnum_of_isPlain plain
    · intro function
      rw [function] at category
      cases category
    · intro voidptr
      rw [voidptr] at category
      cases category
  · obtain ⟨category, plain⟩ := isA_iff.1 truth
    apply precedesEnum_of_isPlain plain <;> simp [category]
  · obtain ⟨category, plain⟩ := isA_iff.1 text
    apply precedesEnum_of_isPlain plain <;> simp [category]

/-- What stands for a basic type is of no kind that is looked for before enums. -/
theorem precedesEnum_of_unwrap (basic : d.unwrap.isBasic = true) :
    d.resolve.precedesEnum = false := by
  cases behind : d.resolve.underlying? with
  | some u => exact precedesEnum_of_isEnum (isEnum_of_underlying? behind)
  | none =>
      rw [unwrap_of_underlying?_eq_none behind] at basic
      exact precedesEnum_of_isBasic basic

/-- A type that the choice of a rule sees through: it is of no kind that is looked for
before enums, and if it is an enum that stands for a type, it stands for a basic one in
the end. -/
structure Transparent (d : Descriptor) : Prop where
  kind : d.resolve.precedesEnum = false
  basic : d.resolve.underlying?.isSome = true → d.unwrap.isBasic = true

theorem Transparent.of_unwrap (basic : d.unwrap.isBasic = true) : d.Transparent :=
  ⟨precedesEnum_of_unwrap basic, fun _ => basic⟩

theorem Transparent.resolve (transparent : d.Transparent) : d.resolve.Transparent := by
  obtain ⟨kind, basic⟩ := transparent
  constructor
  · rwa [resolve_resolve]
  · rwa [resolve_resolve, unwrap_resolve]

/-- One choice keeps a resolved type, or takes it from behind one enum: it stays transparent
and what stands behind all enums stays the same. -/
theorem Transparent.next (transparent : d.Transparent) (resolved : d.aliasOf = none)
    (next : u = d ∨ ∃ v, d.underlying? = some v ∧ u = v.resolve) :
    u.Transparent ∧ u.aliasOf = none ∧ u.unwrap = d.unwrap := by
  rcases next with rfl | ⟨v, behind, rfl⟩
  · exact ⟨transparent, resolved, rfl⟩
  · have enum : d.resolve.underlying? = some v := by rwa [resolve_of_aliasOf resolved]
    have same : v.resolve.unwrap = d.unwrap := by
      rw [unwrap_resolve, unwrap_of_underlying? enum]
    have basic : d.unwrap.isBasic = true := by
      apply transparent.basic
      rw [enum]
      rfl
    refine ⟨.of_unwrap ?_, aliasOf_resolve v, same⟩
    rw [same]
    exact basic

end Descriptor

namespace Handler

/-- An enum selects the rule for enums unless something is looked for before it. -/
theorem select_of_isEnum {o : Operation} (logical : o.op.isLogical = false)
    (left : o.left.type.precedesEnum = false) (right : o.right.type.precedesEnum = false)
    (enum : o.either Descriptor.isEnum = true) : select o = some .enum := by
  simp only [Descriptor.precedesEnum, Bool.or_eq_false_iff] at left right
  obtain ⟨⟨⟨leftFunction, leftArray⟩, leftSlice⟩, leftPointer⟩ := left
  obtain ⟨⟨⟨rightFunction, rightArray⟩, rightSlice⟩, rightPointer⟩ := right
  have functions := Operation.either_eq_false leftFunction rightFunction
  have arrays := Operation.either_eq_false leftArray rightArray
  have slices := Operation.either_eq_false leftSlice rightSlice
  have pointers := Operation.either_eq_false leftPointer rightPointer
  simp [select, logical, priority, functions, arrays, slices, pointers, enum]

end Handler

namespace Operation

variable {o : Operation}

/-- The operation with all enums taken away at once. -/
def unwrapped (o : Operation) : Operation := o.retype o.left.type.unwrap o.right.type.unwrap

theorem unwrapEnums?_isSome (behind : o.left.type.underlying?.isSome = true ∨
    o.right.type.underlying?.isSome = true) : o.unwrapEnums?.isSome = true := by
  unfold unwrapEnums? unwrapEnum?
  cases left : o.left.type.underlying? with
  | some u => rfl
  | none =>
      cases right : o.right.type.underlying? with
      | some v => rfl
      | none => simp [left, right] at behind

/-- Where the choice ends, no transparent operand is an enum that stands for a type. -/
theorem underlying?_of_last (last : o.next? = none) (logical : o.op.isLogical = false)
    (left : o.left.type.precedesEnum = false) (right : o.right.type.precedesEnum = false) :
    o.left.type.underlying? = none ∧ o.right.type.underlying? = none := by
  have stays : ∀ behind : o.left.type.underlying?.isSome = true ∨
      o.right.type.underlying?.isSome = true, o.either Descriptor.isEnum = true → False := by
    intro behind enum
    have more := unwrapEnums?_isSome behind
    rw [next?, if_pos (Handler.select_of_isEnum logical left right enum)] at last
    rw [last] at more
    cases more
  constructor
  · refine Option.eq_none_iff_forall_ne_some.2 fun u behind => ?_
    refine stays (.inl (by rw [behind]; rfl)) ?_
    rw [either, Descriptor.isEnum_of_underlying? behind, Bool.true_or]
  · refine Option.eq_none_iff_forall_ne_some.2 fun u behind => ?_
    refine stays (.inr (by rw [behind]; rfl)) ?_
    rw [either, Descriptor.isEnum_of_underlying? behind, Bool.or_true]

/-- **Taking all enums away at once ends where taking one after the other ends.** -/
theorem settled_unwrapped (logical : o.op.isLogical = false)
    (left : o.left.type.Transparent) (right : o.right.type.Transparent)
    (leftResolved : o.left.type.aliasOf = none) (rightResolved : o.right.type.aliasOf = none) :
    o.unwrapped.settled = o.settled := by
  fun_induction settled o with
  | case1 o p next ih =>
      obtain ⟨l, r, rfl, nextLeft, nextRight⟩ := unwrapEnums?_eq (unwrapEnums?_of_next? next)
      obtain ⟨seenLeft, resolvedLeft, sameLeft⟩ := left.next leftResolved nextLeft
      obtain ⟨seenRight, resolvedRight, sameRight⟩ := right.next rightResolved nextRight
      have same : (o.retype l r).unwrapped = o.unwrapped := by
        show o.retype l.unwrap r.unwrap = o.retype o.left.type.unwrap o.right.type.unwrap
        rw [sameLeft, sameRight]
      rw [← same]
      exact ih logical seenLeft seenRight resolvedLeft resolvedRight
  | case2 o last =>
      have plainLeft := Descriptor.resolve_of_aliasOf leftResolved
      have plainRight := Descriptor.resolve_of_aliasOf rightResolved
      have kindLeft := left.kind
      have kindRight := right.kind
      rw [plainLeft] at kindLeft
      rw [plainRight] at kindRight
      obtain ⟨bareLeft, bareRight⟩ := underlying?_of_last last logical kindLeft kindRight
      have same : o.unwrapped = o := by
        rw [unwrapped, Descriptor.unwrap_of_underlying?_eq_none (by rwa [plainLeft]),
          Descriptor.unwrap_of_underlying?_eq_none (by rwa [plainRight]), plainLeft, plainRight]
        rfl
      rw [same]
      exact settled_of_next?_eq_none last

/-- Operands that stand for numbers are ruled on as these numbers. -/
theorem settled_of_numbers (logical : o.op.isLogical = false)
    (left : o.left.type.unwrap.isNumeric = true) (right : o.right.type.unwrap.isNumeric = true)
    (leftResolved : o.left.type.aliasOf = none) (rightResolved : o.right.type.aliasOf = none) :
    o.settled = o.unwrapped := by
  have basicLeft : o.left.type.unwrap.isBasic = true := by simp [Descriptor.isBasic, left]
  have basicRight : o.right.type.unwrap.isBasic = true := by simp [Descriptor.isBasic, right]
  rw [← settled_unwrapped logical (.of_unwrap basicLeft) (.of_unwrap basicRight) leftResolved
    rightResolved]
  exact settled_of_isNumeric left right

end Operation

/-- A value with its type taken from behind enums. -/
def Value.behindEnums (v : Value) : Value := { v with type := v.type.behindEnums }

namespace Solver

/-- Behind its aliases and enums each value keeps its side. -/
theorem type_unwrapped (left : Value) (operator : Operator) (right : Value) :
    let o := (operation left operator right).unwrapped
    o.left.type = left.type.unwrap ∧ o.right.type = right.type.unwrap :=
  ⟨Descriptor.unwrap_resolve _, Descriptor.unwrap_resolve _⟩

/-- Values that stand for numbers are ruled on as these numbers. -/
theorem ruling_of_isNumeric (s : Solver) {left right : Value} {operator : Operator}
    (logical : operator.op.isLogical = false) (leftNumeric : left.type.unwrap.isNumeric = true)
    (rightNumeric : right.type.unwrap.isNumeric = true) :
    s.ruling left right operator = s.settle (operation left operator right).unwrapped := by
  obtain ⟨leftType, rightType⟩ := type_unwrapped left operator right
  rw [← leftType] at leftNumeric
  rw [← rightType] at rightNumeric
  exact congrArg s.settle (Operation.settled_of_numbers logical leftNumeric rightNumeric
    (Descriptor.aliasOf_resolve _) (Descriptor.aliasOf_resolve _))

/-- The choice of a rule for two values ends as for the values behind their enums. -/
theorem ruling_behindEnums (s : Solver) {left right : Value} {operator : Operator}
    (logical : operator.op.isLogical = false) (seenLeft : left.type.Transparent)
    (seenRight : right.type.Transparent) :
    s.ruling left.behindEnums right.behindEnums operator = s.ruling left right operator := by
  let o := operation left operator right
  have same : operation left.behindEnums operator right.behindEnums = o.unwrapped := by
    show o.retype left.type.behindEnums.resolve right.type.behindEnums.resolve =
      o.retype left.type.resolve.unwrap right.type.resolve.unwrap
    rw [Descriptor.resolve_behindEnums, Descriptor.resolve_behindEnums,
      Descriptor.unwrap_resolve, Descriptor.unwrap_resolve]
  rw [ruling, ruling, same]
  congr 1
  exact Operation.settled_unwrapped logical seenLeft.resolve seenRight.resolve
    (Descriptor.aliasOf_resolve _) (Descriptor.aliasOf_resolve _)

/-- **Enums are solved as what they stand for.**  Operands that the choice of a rule sees
through are solved to the value, with the diagnostics, to which the operands behind all
their enums are solved, unless the operator is logical; whichever of the two are enums,
however deep, and whatever they hold. -/
theorem solve_behindEnums (s : Solver) {left right : Value} {operator : Operator}
    (e : Evaluation) (logical : operator.op.isLogical = false)
    (seenLeft : left.type.Transparent) (seenRight : right.type.Transparent) :
    (s.solve left operator right e).1 =
        (s.solve left.behindEnums operator right.behindEnums e).1 ∧
      (s.solve left operator right e).2.diagnostics =
        (s.solve left.behindEnums operator right.behindEnums e).2.diagnostics ∧
      (s.solve left operator right e).2.failed =
        (s.solve left.behindEnums operator right.behindEnums e).2.failed := by
  have same := s.ruling_behindEnums logical seenLeft seenRight
  refine ⟨?_, ?_, ?_⟩
  · rw [solve_value, solve_value, same]
    rfl
  · rw [solve_diagnostics, solve_diagnostics, same]
  · rw [solve_failed, solve_failed, same]

/-- An enum of an alias of an enum of 5, times an enum of 3, is 5 times 3. -/
theorem solve_behindEnums_nested :
    ∃ left right : Value,
      left = .ofConstant
        (.enumeration "E" (.aliasTo "A" (.enumeration "F" (.scalar .i32)))) (.int 5) ∧
      right = .ofConstant (.enumeration "G" (.scalar .u8)) (.uint 3) ∧
      left.type.Transparent ∧ right.type.Transparent ∧
      ((ofConfig .standard).solve left (.detached .mul) right .empty).1 =
        ((ofConfig .standard).solve (.int .i32 5) (.detached .mul) (.uint .u8 3) .empty).1 ∧
      ((ofConfig .standard).solve left (.detached .mul) right .empty).1.constant =
        some (.int 15) := by
  -- one enum at a time: evaluating the whole nesting at once is slow
  have deep : (Descriptor.enumeration "E"
      (.aliasTo "A" (.enumeration "F" (.scalar .i32)))).behindEnums = .scalar .i32 := by
    rw [Descriptor.behindEnums_of_underlying? (u := .aliasTo "A" _) (by rfl),
      Descriptor.behindEnums_of_underlying? (u := .scalar .i32) (by rfl)]
    with_unfolding_all rfl
  have flat : (Descriptor.enumeration "G" (.scalar .u8)).behindEnums = .scalar .u8 := by
    with_unfolding_all rfl
  generalize Descriptor.enumeration "E" (.aliasTo "A" (.enumeration "F" (.scalar .i32))) = E
    at deep ⊢
  generalize Descriptor.enumeration "G" (.scalar .u8) = G at flat ⊢
  have seenLeft : E.Transparent := .of_unwrap (by rw [← E.resolve_behindEnums, deep]; rfl)
  have seenRight : G.Transparent := .of_unwrap (by rw [← G.resolve_behindEnums, flat]; rfl)
  have logical : (Operator.detached .mul).op.isLogical = false := rfl
  have behindLeft : (Value.ofConstant E (.int 5)).behindEnums = .int .i32 5 :=
    congrArg (fun d => Value.ofConstant d (.int 5)) deep
  have behindRight : (Value.ofConstant G (.uint 3)).behindEnums = .uint .u8 3 :=
    congrArg (fun d => Value.ofConstant d (.uint 3)) flat
  have same : ((ofConfig .standard).solve (.ofConstant E (.int 5)) (.detached .mul)
      (.ofConstant G (.uint 3)) .empty).1 =
        ((ofConfig .standard).solve (.int .i32 5) (.detached .mul) (.uint .u8 3) .empty).1 := by
    rw [← behindLeft, ← behindRight]
    exact (solve_behindEnums (ofConfig .standard) .empty logical seenLeft seenRight).1
  refine ⟨_, _, rfl, rfl, seenLeft, seenRight, same, ?_⟩
  rw [same]
  decide +kernel

end Solver

end BinarySolver
