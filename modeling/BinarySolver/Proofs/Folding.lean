/-
# BinarySolver.Proofs.Folding -- what folding two constants can give

The tables of folding are read once each, operator by operator; what they say about
the result (`zero divisors come of quotients only', `texts come of joining texts')
is stated for `Constant.fold` as a whole.  `Operation.Folds` lists the four rulings
that folding the constants of an operation can come to.
-/
import BinarySolver.Proofs.Verdict

namespace BinarySolver

set_option autoImplicit false

namespace Constant

variable {op : BinaryOp}

/-! ## Table by table -/

theorem compare_eq_some {α : Type} [BEq α] [LT α] [LE α] [DecidableLT α] [DecidableLE α]
    {l r : α} {b : Bool} (compared : compare op l r = some b) : op.isComparison = true := by
  cases op <;> first | rfl | cases compared

/-- Every table compares as the numbers do. -/
theorem foldFloat_of_compare {l r : Float} {b : Bool} (comparison : op.isComparison = true)
    (compared : compare op l r = some b) : foldFloat op l r = .value (bool b) := by
  have table : foldFloat op l r = .ofOption ((compare op l r).map bool) := by
    cases op <;> first | rfl | cases comparison
  rw [table, compared]
  rfl

theorem foldInt_of_compare {l r : Int64} {b : Bool} (comparison : op.isComparison = true)
    (compared : compare op l r = some b) (amount : UInt64) :
    foldInt op l r amount = .value (bool b) := by
  have table : foldInt op l r amount = .ofOption ((compare op l r).map bool) := by
    cases op <;> first | rfl | cases comparison
  rw [table, compared]
  rfl

theorem foldUInt_of_compare {l r : UInt64} {b : Bool} (comparison : op.isComparison = true)
    (compared : compare op l r = some b) : foldUInt op l r = .value (bool b) := by
  have table : foldUInt op l r = .ofOption ((compare op l r).map bool) := by
    cases op <;> first | rfl | cases comparison
  rw [table, compared]
  rfl

theorem foldBool_eq_some {l r : Bool} {c : Constant} (folded : foldBool op l r = some c) :
    op.yieldsBool = true ∧ ∃ b, c = bool b := by
  cases op <;> simp only [foldBool, Option.some.injEq, reduceCtorEq] at folded <;>
    exact ⟨rfl, _, folded.symm⟩

theorem foldText_eq_some {l r : String} {c : Constant} (folded : foldText op l r = some c) :
    (op = .add ∧ c = str (l ++ r)) ∨ (op.yieldsBool = true ∧ ∃ b, c = bool b) := by
  cases op <;> simp only [foldText, Option.some.injEq, reduceCtorEq] at folded
  case add => exact .inl ⟨rfl, folded.symm⟩
  all_goals exact .inr ⟨rfl, _, folded.symm⟩

/-- A constant that is a number. -/
def isNumber : Constant → Bool
  | float _ | int _ | uint _ => true
  | bool _ | str _ => false

/-- A constant in the representation of floats. -/
def isFloat : Constant → Bool
  | float _ => true
  | bool _ | str _ | int _ | uint _ => false

/-- What the folding of two numbers by an operator can be. -/
structure NumberFolding (op : BinaryOp) (f : Folding) : Prop where
  value : ∀ c, f = .value c →
    (op.isComparison = true ∧ ∃ b, c = bool b) ∨ (op.yieldsBool = false ∧ c.isNumber = true)
  zeroDivisor : f = .zeroDivisor → op = .div ∨ op = .rem

theorem numberFolding_compare {α : Type} [BEq α] [LT α] [LE α] [DecidableLT α] [DecidableLE α]
    (op : BinaryOp) (l r : α) : NumberFolding op (.ofOption ((compare op l r).map bool)) := by
  cases compared : compare op l r with
  | none => exact ⟨nofun, nofun⟩
  | some b =>
      refine ⟨fun c h => ?_, nofun⟩
      cases h
      exact .inl ⟨compare_eq_some compared, b, rfl⟩

theorem numberFolding_value {c : Constant} (other : op.yieldsBool = false)
    (number : c.isNumber = true) : NumberFolding op (.value c) := by
  refine ⟨fun d h => ?_, nofun⟩
  cases h
  exact .inr ⟨other, number⟩

theorem numberFolding_zeroDivisor (quotient : op = .div ∨ op = .rem) :
    NumberFolding op .zeroDivisor :=
  ⟨nofun, fun _ => quotient⟩

theorem numberFolding_foldFloat (op : BinaryOp) (l r : Float) :
    NumberFolding op (foldFloat op l r) := by
  cases op <;> simp only [foldFloat] <;>
    first
      | exact numberFolding_value rfl rfl
      | exact numberFolding_compare _ _ _
      | skip
  case div =>
    split
    · exact numberFolding_zeroDivisor (.inl rfl)
    · exact numberFolding_value rfl rfl

theorem numberFolding_foldInt (op : BinaryOp) (l r : Int64) (amount : UInt64) :
    NumberFolding op (foldInt op l r amount) := by
  cases op <;> simp only [foldInt] <;>
    first
      | exact numberFolding_value rfl rfl
      | exact numberFolding_compare _ _ _
      | skip
  case div =>
    split
    · exact numberFolding_zeroDivisor (.inl rfl)
    · exact numberFolding_value rfl rfl
  case rem =>
    split
    · exact numberFolding_zeroDivisor (.inr rfl)
    · exact numberFolding_value rfl rfl
  all_goals split <;> exact numberFolding_value rfl rfl

theorem numberFolding_foldUInt (op : BinaryOp) (l r : UInt64) :
    NumberFolding op (foldUInt op l r) := by
  cases op <;> simp only [foldUInt] <;>
    first
      | exact numberFolding_value rfl rfl
      | exact numberFolding_compare _ _ _
      | skip
  case div =>
    split
    · exact numberFolding_zeroDivisor (.inl rfl)
    · exact numberFolding_value rfl rfl
  case rem =>
    split
    · exact numberFolding_zeroDivisor (.inr rfl)
    · exact numberFolding_value rfl rfl

/-! ## All tables -/

theorem numberFolding_undefined (op : BinaryOp) : NumberFolding op .undefined :=
  ⟨nofun, nofun⟩

/-- A number on the left folds as a number, whatever stands on the right. -/
theorem numberFolding_fold (op : BinaryOp) {l : Constant} (number : l.isNumber = true)
    (r : Constant) : NumberFolding op (fold op l r) := by
  cases l with
  | bool => cases number
  | str => cases number
  | float l =>
      rw [fold]
      split
      · exact numberFolding_foldFloat ..
      · exact numberFolding_undefined op
  | int l =>
      rw [fold]
      split
      · exact numberFolding_foldInt ..
      · exact numberFolding_undefined op
  | uint l =>
      rw [fold]
      split
      · exact numberFolding_foldUInt ..
      · exact numberFolding_undefined op

/-- A zero divisor comes of a quotient or a remainder. -/
theorem fold_eq_zeroDivisor {l r : Constant} (folded : fold op l r = .zeroDivisor) :
    op = .div ∨ op = .rem := by
  cases number : l.isNumber with
  | true => exact (numberFolding_fold op number r).zeroDivisor folded
  | false =>
      cases l with
      | bool =>
          rw [fold] at folded
          cases made : r.asBool?.bind (foldBool op _) <;> rw [made] at folded <;> cases folded
      | str =>
          rw [fold] at folded
          cases made : r.asText?.bind (foldText op _) <;> rw [made] at folded <;> cases folded
      | _ => cases number

/-- A truth value comes of an operator that makes one, a text of joining a text to
another, and everything else is a number. -/
theorem fold_eq_value {l r c : Constant} (folded : fold op l r = .value c) :
    (op.yieldsBool = true ∧ ∃ b, c = bool b) ∨
      (op = .add ∧ ∃ x y, l = str x ∧ c = str y) ∨
      (op.yieldsBool = false ∧ l.isNumber = true ∧ c.isNumber = true) := by
  cases number : l.isNumber with
  | true =>
      rcases (numberFolding_fold op number r).value c folded with ⟨comparison, truth⟩ | other
      · exact .inl ⟨BinaryOp.yieldsBool_of_isComparison comparison, truth⟩
      · exact .inr (.inr ⟨other.1, rfl, other.2⟩)
  | false =>
      cases l with
      | bool =>
          rw [fold] at folded
          cases made : r.asBool?.bind (foldBool op _) with
          | none => rw [made] at folded; cases folded
          | some d =>
              rw [made] at folded
              cases folded
              obtain ⟨_, -, table⟩ := Option.bind_eq_some_iff.1 made
              exact .inl (foldBool_eq_some table)
      | str x =>
          rw [fold] at folded
          cases made : r.asText?.bind (foldText op _) with
          | none => rw [made] at folded; cases folded
          | some d =>
              rw [made] at folded
              cases folded
              obtain ⟨y, -, table⟩ := Option.bind_eq_some_iff.1 made
              rcases foldText_eq_some table with ⟨add, joined⟩ | truth
              · exact .inr (.inl ⟨add, x, _, rfl, joined⟩)
              · exact .inl truth
      | _ => cases number

end Constant

namespace Operation

/-- The four rulings that folding the constants of an operation can come to. -/
inductive Folds (o : Operation) (type : Descriptor) : Ruling → Prop where
  /-- A constant is missing. -/
  | typed : Folds o type (.typed type)
  | value {l r c : Constant} :
      o.left.constant = some l → o.right.constant = some r → Constant.fold o.op l r = .value c →
      Folds o type
        ((Ruling.of { type, constant := some c, width := .minimal }).trace (.folded o.op l r c))
  | undefined : Folds o type (.of { type, constant := none, width := .minimal })
  | zeroDivisor {l r : Constant} :
      o.left.constant = some l → o.right.constant = some r →
      Constant.fold o.op l r = .zeroDivisor →
      Folds o type
        (((Ruling.of { type, constant := some (.zero type.category), width := .keep }).trace
          (.zeroSubstituted o.op type.category)).warn
            (.report .divideByZero o.operator.span [o.op.symbol] []))

/-- Two known constants are folded. -/
theorem fold_of_value (o : Operation) {l r c : Constant} (left : o.left.constant = some l)
    (right : o.right.constant = some r) (known : o.bothConst = true)
    (folded : Constant.fold o.op l r = .value c) (type : Descriptor) :
    o.fold type = (Ruling.of { type, constant := some c, width := .minimal }).trace
      (.folded o.op l r c) := by
  unfold fold
  rw [left, right, known]
  simp only [folded]

theorem fold_folds (o : Operation) (type : Descriptor) : o.Folds type (o.fold type) := by
  unfold fold
  split
  · split
    · exact .value ‹_› ‹_› ‹_›
    · exact .undefined
    · exact .zeroDivisor ‹_› ‹_› ‹_›
  · exact .typed

/-- What folding reports is one division by zero at most, and is reported of a quotient
or a remainder. -/
theorem diagnostics_fold (o : Operation) (type : Descriptor) :
    (o.fold type).diagnostics = [] ∨
      ((o.op = .div ∨ o.op = .rem) ∧ (o.fold type).diagnostics =
        [.report .divideByZero o.operator.span [o.op.symbol] []]) := by
  have folds := o.fold_folds type
  generalize o.fold type = r at folds ⊢
  cases folds with
  | typed => exact .inl rfl
  | value => exact .inl rfl
  | undefined => exact .inl rfl
  | zeroDivisor _ _ zero => exact .inr ⟨Constant.fold_eq_zeroDivisor zero, rfl⟩

end Operation

/-- A truth value, whether it is known or not. -/
structure Outcome.IsTruth (outcome : Outcome) : Prop where
  type : outcome.type = .bool
  constant : ∀ c, outcome.constant = some c → ∃ b, c = .bool b
  width : ∀ amount, outcome.width ≠ .shift amount

namespace Outcome

theorem isTruth_typed : (typed .bool).IsTruth := ⟨rfl, nofun, nofun⟩

/-- A constant is folded by an operator that makes truth values to nothing else. -/
theorem isTruth_fold {p : Operation} (yields : p.op.yieldsBool = true) :
    (p.fold .bool).outcome.IsTruth := by
  have folds := p.fold_folds .bool
  generalize p.fold .bool = r at folds ⊢
  cases folds with
  | typed => exact isTruth_typed
  | undefined => exact ⟨rfl, nofun, nofun⟩
  | value left right folded =>
      refine ⟨rfl, fun c known => ?_, nofun⟩
      cases known
      rcases Constant.fold_eq_value folded with ⟨-, truth⟩ | ⟨add, -⟩ | ⟨other, -⟩
      · exact truth
      · rw [add] at yields
        cases yields
      · rw [other] at yields
        cases yields
  | zeroDivisor left right folded =>
      rcases Constant.fold_eq_zeroDivisor folded with div | rem
      · rw [div] at yields
        cases yields
      · rw [rem] at yields
        cases yields

end Outcome

namespace Solver

/-- An operator that makes truth values is ruled to make one. -/
theorem Verdict.isTruth {s : Solver} {o : Operation} {r : Ruling} (verdict : Verdict s o r)
    (yields : o.op.yieldsBool = true) : r.outcome.IsTruth := by
  cases verdict with
  | refused =>
      simp only [Operation.refuse, Operation.bestEffort, yields, if_true]
      exact Outcome.isTruth_typed
  | swapped _ _ _ number =>
      rw [number] at yields
      cases yields
  | compared => exact Outcome.isTruth_typed
  | moved move =>
      rcases move with add | sub
      · rw [add] at yields
        cases yields
      · rw [sub] at yields
        cases yields
  | known b =>
      refine ⟨rfl, fun c known => ?_, nofun⟩
      simp only [knownTruth, Ruling.of] at known
      split at known
      · exact ⟨b, (Option.some.inj known).symm⟩
      · cases known
  | truth recast =>
      apply Outcome.isTruth_fold
      rw [recast.op_eq]
      exact yields
  | joined add =>
      rw [add] at yields
      cases yields
  | computed _ _ _ number =>
      rw [number] at yields
      cases yields
  | shifted shift =>
      rw [BinaryOp.yieldsBool_of_isShift shift] at yields
      cases yields

/-- What an operator that makes truth values is ruled to make. -/
theorem isTruth_ruling (s : Solver) (left right : Value) {operator : Operator}
    (yields : operator.op.yieldsBool = true) : (s.ruling left right operator).outcome.IsTruth := by
  apply (settle_verdict s _).isTruth
  rw [Operation.op_settled]
  exact yields

/-- What is made of a truth value is of type `bool`, and known as one if it is known. -/
theorem finish_of_isTruth {outcome : Outcome} (truth : outcome.IsTruth) (bothConst : Bool)
    (span : Span) :
    (finish outcome bothConst span).type = .bool ∧
      ∀ c, (finish outcome bothConst span).constant = some c → ∃ b, c = .bool b := by
  have bare : outcome.type.voided = .bool := by
    rw [truth.type]
    exact Descriptor.voided_of_isVoid_eq_false rfl
  rcases finish_cases outcome bothConst span with unknown | ⟨c, known, -, finished⟩
  · rw [unknown]
    exact ⟨bare, nofun⟩
  · obtain ⟨b, rfl⟩ := truth.constant c known
    rw [finished]
    refine ⟨?_, fun d same => ⟨b, (Option.some.inj same).symm⟩⟩
    show narrowed outcome (.bool b) = .bool
    unfold narrowed
    split
    · exact truth.type
    · rename_i amount shift
      exact absurd shift (truth.width amount)
    · exact truth.type

/-- A truth value is known if it is folded and both operands are known. -/
theorem constant_finish_of_isTruth {outcome : Outcome} (truth : outcome.IsTruth)
    (bothConst : Bool) (span : Span) :
    (finish outcome bothConst span).constant = if bothConst then outcome.constant else none := by
  have bare : outcome.type.isVoid = false := by
    rw [truth.type]
    rfl
  unfold finish
  rw [bare]
  cases outcome.constant <;> cases bothConst <;> rfl

end Solver

end BinarySolver
