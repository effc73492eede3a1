/-
# BinarySolver.Proofs.Symmetry -- comparisons that do not depend on the order

Types meet by structure from either side (`structural_comm`).  Equality of constants does
not depend on the order either (`Constant.fold_comm`), although the right constant is forced
into the representation of the left one: words of either signedness are equal if their bits
are, and equality of floats is symmetric.  Only of a float and a number that is none is one
order another comparison than the other.
-/
import BinarySolver.Proofs.Folding

namespace BinarySolver

set_option autoImplicit false

/-! ## Types -/

namespace Descriptor

variable {d : Descriptor}

theorem isNullable_of_isNil (nil : d.isNil = true) : d.isNullable = true := by
  simp [isNullable, nil]

end Descriptor

/-- Two lists are compared in pairs from either side. -/
theorem all_zip_comm {α : Type} {meets : α → α → Bool} :
    ∀ (ls rs : List α), (∀ l ∈ ls, ∀ r, meets l r = meets r l) →
      ((ls.zip rs).all fun pair => meets pair.1 pair.2) =
        (rs.zip ls).all fun pair => meets pair.1 pair.2
  | [], rs, _ => by simp
  | l :: ls, [], _ => by simp
  | l :: ls, r :: rs, comm => by
      simp only [List.zip_cons_cons, List.all_cons]
      rw [comm l (.head _) r, all_zip_comm ls rs fun x member => comm x (.tail _ member)]

theorem structural_comm (mode : Leniency) (left right : Descriptor) :
    structural mode left right = structural mode right left := by
  rw [structural_eq_ite, structural_eq_ite mode right left]
  have smaller : ∀ ds : List Descriptor, left.resolve.elements? = some ds → ∀ d ∈ ds, ∀ e,
      structural mode d e = structural mode e d := by
    intro ds parts d member e
    have part := Descriptor.size_lt_of_mem_elements? parts member
    have whole := Descriptor.size_resolve_le left
    exact structural_comm mode d e
  generalize left.resolve = l at smaller ⊢
  generalize right.resolve = r
  dsimp only
  rw [Bool.or_comm r.isAny, Bool.or_comm r.multi, Bool.or_comm (r.isVoidptr && l.isPointer)]
  by_cases leftNil : l.isNil = true
  · by_cases rightNil : r.isNil = true
    · simp [leftNil, rightNil, Descriptor.isNullable_of_isNil]
    · simp [leftNil, rightNil]
  · by_cases rightNil : r.isNil = true
    · simp [leftNil, rightNil]
    · simp only [leftNil, rightNil, Bool.false_eq_true, if_false]
      refine ite_congr rfl (fun _ => rfl) fun _ => ?_
      refine ite_congr rfl (fun _ => rfl) fun _ => ?_
      refine ite_congr rfl (fun _ => ?_) fun _ => ?_
      · cases leftParts : l.elements? with
        | none => cases r.elements? <;> rfl
        | some ls =>
            cases r.elements? with
            | none => rfl
            | some rs =>
                simp only
                rw [all_zip_comm ls rs (smaller ls leftParts), BEq.comm (a := l.pointers),
                  BEq.comm (a := ls.length)]
      · rw [BEq.comm (a := l.category), BEq.comm (a := l.signature)]
termination_by left.size
decreasing_by exact Nat.lt_of_lt_of_le part whole

/-! ## Constants -/

namespace Constant

variable {op : BinaryOp}

open Float.Model in
/-- Comparing two floats in the other order turns the answer round. -/
theorem compare_unpacked_swap (x y : UnpackedFloat) :
    (x.compare y).map Ordering.swap = y.compare x := by
  cases x with
  | notANumber =>
      cases y with
      | infinity sign => cases sign <;> rfl
      | finite sign => cases sign <;> rfl
      | _ => rfl
  | infinity sign =>
      cases y with
      | infinity sign' => cases sign <;> cases sign' <;> rfl
      | finite sign' => cases sign <;> cases sign' <;> rfl
      | _ => cases sign <;> rfl
  | zero =>
      cases y with
      | infinity sign => cases sign <;> rfl
      | finite sign => cases sign <;> rfl
      | _ => rfl
  | finite sign m e =>
      cases y with
      | infinity sign' => cases sign <;> cases sign' <;> rfl
      | finite sign' m' e' =>
          have magnitudes : ((Ord.compare e e').then (Ord.compare m m')).swap =
              (Ord.compare e' e).then (Ord.compare m' m) := by
            rw [Ordering.swap_then, Int.compare_swap, Nat.compare_swap]
          cases sign with
          | positive =>
              cases sign' with
              | positive => exact congrArg some magnitudes
              | negative => rfl
          | negative =>
              cases sign' with
              | positive => rfl
              | negative => exact congrArg (fun order => some order.swap) magnitudes
      | _ => cases sign <;> rfl

theorem float_beq_comm (x y : Float) : (x == y) = (y == x) := by
  show (x.toModel.unpack.compare y.toModel.unpack == some .eq) =
    (y.toModel.unpack.compare x.toModel.unpack == some .eq)
  rw [← compare_unpacked_swap x.toModel.unpack]
  cases x.toModel.unpack.compare y.toModel.unpack with
  | none => rfl
  | some order => cases order <;> rfl

/-- A signed and an unsigned word are equal as signed words if they are as unsigned ones. -/
theorem word_beq_comm (x : Int64) (y : UInt64) : (x == y.toInt64) = (y == x.toUInt64) := by
  rw [Bool.eq_iff_iff, beq_iff_eq, beq_iff_eq]
  constructor
  · intro same
    rw [same, UInt64.toUInt64_toInt64]
  · intro same
    rw [same, Int64.toInt64_toUInt64]

section Compare

variable {α β : Type} [BEq α] [LT α] [LE α] [DecidableLT α] [DecidableLE α]
  [BEq β] [LT β] [LE β] [DecidableLT β] [DecidableLE β]

/-- Whether two things are equal is all that an equality operator asks of them. -/
theorem exists_compare (equality : op.isEquality = true) {l r : α} {l' r' : β}
    (same : (l == r) = (l' == r')) :
    ∃ b, compare op l r = some b ∧ compare op l' r' = some b := by
  cases op with
  | eq => exact ⟨_, rfl, congrArg some same.symm⟩
  | ne => exact ⟨_, rfl, congrArg (fun equal => some !equal) same.symm⟩
  | _ => cases equality

end Compare

/-- Two constants are equal from either side, unless one is a float and the other a number
that is none: of these the left one decides whether they are compared as floats. -/
theorem fold_comm (equality : op.isEquality = true) {l r : Constant}
    (alike : l.isNumber = true → r.isNumber = true → l.isFloat = r.isFloat) :
    fold op l r = fold op r l := by
  have comparison := BinaryOp.isComparison_of_isEquality equality
  cases l with
  | bool x =>
      cases r with
      | bool y =>
          have comm : (x == y) = (y == x) := BEq.comm
          cases op with
          | eq => exact congrArg (fun same => Folding.value (bool same)) comm
          | ne => exact congrArg (fun same => Folding.value (bool !same)) comm
          | _ => cases equality
      | _ => rfl
  | str x =>
      cases r with
      | str y =>
          have comm : (x == y) = (y == x) := BEq.comm
          cases op with
          | eq => exact congrArg (fun same => Folding.value (bool same)) comm
          | ne => exact congrArg (fun same => Folding.value (bool !same)) comm
          | _ => cases equality
      | _ => rfl
  | float x =>
      cases r with
      | float y =>
          obtain ⟨b, first, second⟩ := exists_compare equality (float_beq_comm x y)
          exact (foldFloat_of_compare comparison first).trans
            (foldFloat_of_compare comparison second).symm
      | int => cases alike rfl rfl
      | uint => cases alike rfl rfl
      | _ => rfl
  | int x =>
      cases r with
      | int y =>
          obtain ⟨b, first, second⟩ := exists_compare equality (BEq.comm (a := x) (b := y))
          exact (foldInt_of_compare comparison first _).trans
            (foldInt_of_compare comparison second _).symm
      | uint y =>
          obtain ⟨b, first, second⟩ := exists_compare equality (word_beq_comm x y)
          exact (foldInt_of_compare comparison first _).trans
            (foldUInt_of_compare comparison second).symm
      | float => cases alike rfl rfl
      | _ => rfl
  | uint x =>
      cases r with
      | int y =>
          obtain ⟨b, first, second⟩ := exists_compare equality (word_beq_comm y x)
          exact (foldUInt_of_compare comparison second).trans
            (foldInt_of_compare comparison first _).symm
      | uint y =>
          obtain ⟨b, first, second⟩ := exists_compare equality (BEq.comm (a := x) (b := y))
          exact (foldUInt_of_compare comparison first).trans
            (foldUInt_of_compare comparison second).symm
      | float => cases alike rfl rfl
      | _ => rfl

end Constant

end BinarySolver
