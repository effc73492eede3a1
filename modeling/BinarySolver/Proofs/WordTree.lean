/-
# BinarySolver.Proofs.WordTree -- trees of integers fold as words

A known integer is a word of 64 bits, whichever representation it has: a signed one is
the word of its two's complement.  Sums, differences, products and the operators on bits
are operations on words, and so is a shift to the left by less than 64 bits; so a tree
of them is folded, node by node, to the word that it is (`WordTree.solve_carries`).

Between two nodes everything but the word may change: the category, the signedness and
the representation, which need not agree.  `Value.Carries` is what is left and all that
the next node needs: a known constant in one of the two representations of integers, of
a type for which numbers are folded as integers.
-/
import BinarySolver.Proofs.Folding
import BinarySolver.Proofs.Ranking

namespace BinarySolver

set_option autoImplicit false

/-! ## Words -/

/-- The operators that are operations on words. -/
inductive WordOp where
  | add
  | sub
  | mul
  | bitAnd
  | bitOr
  | bitXor
deriving DecidableEq

namespace WordOp

def toBinary : WordOp → BinaryOp
  | add => .add
  | sub => .sub
  | mul => .mul
  | bitAnd => .bitAnd
  | bitOr => .bitOr
  | bitXor => .bitXor

def apply : WordOp → UInt64 → UInt64 → UInt64
  | add, l, r => l + r
  | sub, l, r => l - r
  | mul, l, r => l * r
  | bitAnd, l, r => l &&& r
  | bitOr, l, r => l ||| r
  | bitXor, l, r => l ^^^ r

/-- The operands can be exchanged and regrouped. -/
def regroups : WordOp → Bool
  | sub => false
  | _ => true

variable {op : WordOp}

theorem yieldsBool_toBinary (op : WordOp) : op.toBinary.yieldsBool = false := by
  cases op <;> rfl

theorem isLogical_toBinary (op : WordOp) : op.toBinary.isLogical = false := by
  cases op <;> rfl

theorem isShift_toBinary (op : WordOp) : op.toBinary.isShift = false := by
  cases op <;> rfl

theorem apply_comm (regroups : op.regroups = true) (x y : UInt64) :
    op.apply x y = op.apply y x := by
  cases op with
  | add => exact UInt64.add_comm x y
  | sub => cases regroups
  | mul => exact UInt64.mul_comm x y
  | bitAnd => exact UInt64.and_comm x y
  | bitOr => exact UInt64.or_comm x y
  | bitXor => exact UInt64.xor_comm x y

theorem apply_assoc (regroups : op.regroups = true) (x y z : UInt64) :
    op.apply (op.apply x y) z = op.apply x (op.apply y z) := by
  cases op with
  | add => exact UInt64.add_assoc x y z
  | sub => cases regroups
  | mul => exact UInt64.mul_assoc x y z
  | bitAnd => exact UInt64.and_assoc x y z
  | bitOr => exact UInt64.or_assoc x y z
  | bitXor => exact UInt64.xor_assoc x y z

end WordOp

namespace Constant

/-- A constant that is a word in one of the two representations of integers. -/
def IsWord (c : Constant) (w : UInt64) : Prop := c = .int w.toInt64 ∨ c = .uint w

variable {l r : Constant} {x y : UInt64}

theorem isWord_int (n : Int64) : (int n).IsWord n.toUInt64 :=
  .inl (congrArg int n.toInt64_toUInt64.symm)

theorem IsWord.asUInt64?_eq (isWord : l.IsWord x) : l.asUInt64? = some x := by
  rcases isWord with rfl | rfl
  · exact congrArg some x.toUInt64_toInt64
  · rfl

theorem IsWord.asInt64?_eq (isWord : l.IsWord x) : l.asInt64? = some x.toInt64 := by
  rcases isWord with rfl | rfl <;> rfl

/-- Folding two words, the left one decides the representation. -/
theorem fold_word (op : WordOp) (left : l.IsWord x) (right : r.IsWord y) :
    ∃ c, fold op.toBinary l r = .value c ∧ c.IsWord (op.apply x y) := by
  have unsigned := right.asUInt64?_eq
  rcases left with rfl | rfl
  · have signed := right.asInt64?_eq
    simp only [fold, signed, unsigned]
    cases op <;> exact ⟨_, rfl, .inl rfl⟩
  · simp only [fold, unsigned]
    cases op <;> exact ⟨_, rfl, .inr rfl⟩

/-- An amount of less than 64 is no negative number, so it is taken as it is. -/
theorem smod_of_lt {m : BitVec 64} (below : m.toNat < 64) : m.smod 64 = m := by
  have positive : m.msb = false := BitVec.msb_eq_false_iff_two_mul_lt.2 (by omega)
  rw [BitVec.smod_eq, positive]
  apply BitVec.eq_of_toNat_eq
  exact Nat.mod_eq_of_lt below

theorem toUInt64_shiftLeftSigned (n : Int64) (below : y < 64) :
    (shiftLeftSigned n y).toUInt64 = n.toUInt64 <<< y := by
  have bound : y.toBitVec.toNat < 64 := below
  have unsigned : y.toBitVec % 64 = y.toBitVec := BitVec.eq_of_toNat_eq (Nat.mod_eq_of_lt bound)
  have signed : y.toInt64.toBitVec.smod 64 = y.toBitVec := smod_of_lt bound
  rw [shiftLeftSigned, if_neg (UInt64.not_le.2 below)]
  apply UInt64.toBitVec_inj.1
  rw [UInt64.toBitVec_shiftLeft, unsigned, Int64.toBitVec_toUInt64, Int64.toBitVec_shiftLeft,
    signed]
  rfl

theorem shiftLeft_of_lt (w : UInt64) (below : y < 64) : shiftLeft w y = w <<< y := by
  rw [shiftLeft, if_neg (UInt64.not_le.2 below)]

/-- Only a word that is negative as a signed number keeps its representation. -/
theorem fold_shiftLeft (left : l.IsWord x) (right : r.IsWord y) (below : y < 64) :
    ∃ c, fold .shl l r = .value c ∧ c.IsWord (x <<< y) := by
  have unsigned := right.asUInt64?_eq
  rcases left with rfl | rfl
  · have signed := right.asInt64?_eq
    simp only [fold, signed, unsigned, foldInt]
    split
    · refine ⟨_, rfl, .inr ?_⟩
      rw [shiftLeft_of_lt _ below, UInt64.toUInt64_toInt64]
    · refine ⟨_, rfl, ?_⟩
      have word := isWord_int (shiftLeftSigned x.toInt64 y)
      rwa [toUInt64_shiftLeftSigned _ below] at word
  · simp only [fold, unsigned, foldUInt]
    exact ⟨_, rfl, .inr (congrArg uint (shiftLeft_of_lt x below))⟩

end Constant

/-- A value is known to be a word: its type is an integer, of either signedness, and its
constant is the word in either representation. -/
structure Value.Carries (v : Value) (w : UInt64) : Prop where
  known : v.isConst = true
  integer : v.type.resolve.isInteger = true
  payload : ∃ c, v.constant = some c ∧ c.IsWord w

theorem Value.Carries.asUInt64?_eq {v : Value} {w : UInt64} (carries : v.Carries w) :
    v.constant.bind Constant.asUInt64? = some w := by
  obtain ⟨c, constant, word⟩ := carries.payload
  rw [constant]
  exact word.asUInt64?_eq

/-- Nothing was reported between two states of an evaluation. -/
structure Evaluation.Quiet (before after : Evaluation) : Prop where
  diagnostics : after.diagnostics = before.diagnostics
  failed : after.failed = before.failed

theorem Evaluation.Quiet.trans {a b c : Evaluation} (first : a.Quiet b) (second : b.Quiet c) :
    a.Quiet c :=
  ⟨second.diagnostics.trans first.diagnostics, second.failed.trans first.failed⟩

/-! ## One node -/

/-- The narrowest category of a word is that of an integer. -/
theorem Constant.IsWord.isInteger_minimal {c : Constant} {w : UInt64} (word : c.IsWord w) :
    ∃ category, c.minimalCategory? = some category ∧ category.isInteger = true := by
  rcases word with rfl | rfl
  · refine ⟨_, rfl, ?_⟩
    rw [Category.isInteger, Width.isSignedInteger_minimalSigned, Bool.true_or]
  · refine ⟨_, rfl, ?_⟩
    rw [Category.isInteger, Width.isUnsignedInteger_minimalUnsigned, Bool.or_true]

/-- A shift by less than 64 bits is typed as an integer. -/
theorem Width.isInteger_ofShift {amount : UInt64} (below : amount < 64) :
    (Width.ofShift amount).isInteger = true := by
  have bound : amount.toNat < 64 := below
  have last : amount.toNat ≤ 63 := by omega
  unfold Width.ofShift
  simp only [last, if_true]
  repeat' split
  all_goals rfl

namespace Solver

variable {l r : Value} {x y : UInt64}

theorem isVoid_wider (s : Solver) {o : Operation} (left : o.left.type.isNumeric = true)
    (right : o.right.type.isNumeric = true) : (s.wider o).isVoid = false :=
  wider_of (P := (·.isVoid = false)) (Descriptor.isA_of_isNumeric left rfl)
    (Descriptor.isA_of_isNumeric right rfl)

/-- The rule for integers is taken for two values that are known to be words. -/
theorem ruling_of_carries (s : Solver) {operator : Operator}
    (logical : operator.op.isLogical = false) (left : l.Carries x) (right : r.Carries y) :
    s.ruling l r operator = s.integerRule (operation l operator r) := by
  have settled := Operation.settled_of_isNumeric (o := operation l operator r)
    (Descriptor.isNumeric_of_isInteger left.integer)
    (Descriptor.isNumeric_of_isInteger right.integer)
  rw [ruling, settled]
  exact settle_integers s logical left.integer right.integer

/-- A ruling that reports nothing and types a word as an integer is solved to that word. -/
theorem solve_of_ruling {s : Solver} {operator : Operator} {outcome : Outcome} {event : Event}
    {c : Constant} (e : Evaluation) (known : (l.isConst && r.isConst) = true)
    (ruled : s.ruling l r operator = (Ruling.of outcome).trace event)
    (folded : outcome.constant = some c) (word : c.IsWord x) (bare : outcome.type.isVoid = false)
    (integer : (narrowed outcome c).resolve.isInteger = true) :
    (s.solve l operator r e).1.Carries x ∧ e.Quiet (s.solve l operator r e).2 := by
  have silent : (s.ruling l r operator).diagnostics = [] := by
    rw [ruled]
    rfl
  refine ⟨?_, ?_, ?_⟩
  · rw [solve_value, ruled, known]
    show (finish outcome true operator.span).Carries x
    rw [finish_true folded bare]
    exact ⟨rfl, integer, c, rfl, word⟩
  · rw [solve_diagnostics, silent, List.append_nil]
  · rw [solve_failed, silent, List.any_nil, Bool.or_false]

/-- **One node.**  An operator on words is applied to the words of its operands, in
whichever representations they come. -/
theorem solve_word (s : Solver) (op : WordOp) (span : Span) (e : Evaluation)
    (left : l.Carries x) (right : r.Carries y) :
    (s.solve l ⟨op.toBinary, span⟩ r e).1.Carries (op.apply x y) ∧
      e.Quiet (s.solve l ⟨op.toBinary, span⟩ r e).2 := by
  obtain ⟨a, leftConstant, leftWord⟩ := left.payload
  obtain ⟨b, rightConstant, rightWord⟩ := right.payload
  obtain ⟨c, folded, word⟩ := Constant.fold_word op leftWord rightWord
  obtain ⟨category, minimal, integer⟩ := word.isInteger_minimal
  let o := operation l ⟨op.toBinary, span⟩ r
  have known : o.bothConst = true := Bool.and_eq_true_iff.2 ⟨left.known, right.known⟩
  have leftNumeric := Descriptor.isNumeric_of_isInteger left.integer
  have rightNumeric := Descriptor.isNumeric_of_isInteger right.integer
  have rule : s.integerRule o = o.fold (s.wider o) :=
    integerRule_eq_fold s leftNumeric rightNumeric op.yieldsBool_toBinary op.isShift_toBinary
  have ruled := (ruling_of_carries s op.isLogical_toBinary left right).trans
    (rule.trans (o.fold_of_value leftConstant rightConstant known folded (s.wider o)))
  have type : narrowed { type := s.wider o, constant := some c, width := .minimal } c =
      .scalar category := by
    rw [narrowed, minimal]
    rfl
  refine solve_of_ruling e known ruled rfl word (isVoid_wider s leftNumeric rightNumeric) ?_
  exact type ▸ (Descriptor.isInteger_scalar category).trans integer

/-- A shift of known constants by an amount that nothing is said about is typed by the
amount. -/
theorem shiftRule_of_value (o : Operation) {a b c : Constant}
    (left : o.left.constant = some a) (right : o.right.constant = some b)
    (known : o.bothConst = true) (folded : Constant.fold o.op a b = .value c)
    (amount : b.asUInt64? = some y) (allowed : isShiftAmount o.right = true) :
    shiftRule o =
      (Ruling.of { type := .scalar .u64, constant := some c, width := .shift y }).trace
        (.folded o.op a b c) := by
  have bound : o.right.constant.bind Constant.asUInt64? = some y := by
    rw [right]
    exact amount
  unfold shiftRule
  rw [allowed, o.fold_of_value left right known folded, bound]
  rfl

/-- **A node that shifts.**  A word is shifted to the left by less than 64 bits. -/
theorem solve_shiftLeft (s : Solver) (span : Span) (e : Evaluation) (left : l.Carries x)
    (right : r.Carries y) (below : y < 64)
    (allowed : isShiftAmount { r with type := r.type.resolve } = true) :
    (s.solve l ⟨.shl, span⟩ r e).1.Carries (x <<< y) ∧
      e.Quiet (s.solve l ⟨.shl, span⟩ r e).2 := by
  obtain ⟨a, leftConstant, leftWord⟩ := left.payload
  obtain ⟨b, rightConstant, rightWord⟩ := right.payload
  obtain ⟨c, folded, word⟩ := Constant.fold_shiftLeft leftWord rightWord below
  let o := operation l ⟨.shl, span⟩ r
  have known : o.bothConst = true := Bool.and_eq_true_iff.2 ⟨left.known, right.known⟩
  have rule : s.integerRule o = shiftRule o :=
    integerRule_eq_shiftRule s (Descriptor.isNumeric_of_isInteger left.integer)
      (Descriptor.isNumeric_of_isInteger right.integer) rfl
  have ruled := (ruling_of_carries s rfl left right).trans
    (rule.trans (shiftRule_of_value o leftConstant rightConstant known folded
      rightWord.asUInt64?_eq allowed))
  refine solve_of_ruling e known ruled rfl word ?_ ?_
  · exact Descriptor.isA_of_isNumeric (Descriptor.isNumeric_scalar .u64) rfl
  · exact (Descriptor.isInteger_scalar _).trans (Width.isInteger_ofShift below)

end Solver

/-! ## Trees -/

/-- A constant of the type of an integer, in the representation for the type. -/
structure IntegerConstant where
  value : Value
  known : value.isConst = true
  typed :
    (∃ x, value.constant = some (.int x) ∧ value.type.resolve.isSignedInteger = true) ∨
      (∃ x, value.constant = some (.uint x) ∧ value.type.resolve.isUnsignedInteger = true)

namespace IntegerConstant

/-- The constant as an unsigned number of 64 bits. -/
def word (c : IntegerConstant) : UInt64 := (c.value.constant.bind Constant.asUInt64?).getD 0

theorem carries (c : IntegerConstant) : c.value.Carries c.word := by
  unfold word
  rcases c.typed with ⟨x, constant, signed⟩ | ⟨x, constant, unsigned⟩
  · rw [constant]
    refine ⟨c.known, ?_, _, constant, Constant.isWord_int x⟩
    rw [Descriptor.isInteger_eq_or, signed, Bool.true_or]
  · rw [constant]
    refine ⟨c.known, ?_, _, constant, .inr rfl⟩
    rw [Descriptor.isInteger_eq_or, unsigned, Bool.or_true]

end IntegerConstant

/-- An amount to shift by: a constant of less than 64, so not a negative one. -/
structure ShiftAmount extends IntegerConstant where
  below : toIntegerConstant.word < 64

namespace ShiftAmount

/-- Nothing is said about such an amount. -/
theorem isShiftAmount (amount : ShiftAmount) :
    Solver.isShiftAmount { amount.value with type := amount.value.type.resolve } = true := by
  have below := amount.below
  unfold Solver.isShiftAmount
  rcases amount.typed with ⟨x, constant, signed⟩ | ⟨x, constant, unsigned⟩
  · have bound : x.toBitVec.toNat < 64 := by
      rw [IntegerConstant.word, constant] at below
      exact below
    have positive : 0 ≤ x := by
      rw [Int64.le_iff_toInt_le, ← Int64.toInt_toBitVec x, BitVec.toInt_eq_toNat_of_lt (by omega)]
      exact Int.natCast_nonneg _
    simp only [constant, signed, amount.known, Option.bind_some, Constant.asInt64?,
      Option.any_some, decide_eq_true positive, Bool.and_self, Bool.or_true]
  · simp only [unsigned, Bool.true_or]

end ShiftAmount

/-- A tree of operators on words over constant leaves, with the amounts of its shifts. -/
inductive WordTree where
  | leaf (c : IntegerConstant)
  | node (op : WordOp) (span : Span) (left right : WordTree)
  | shiftLeft (span : Span) (left : WordTree) (amount : ShiftAmount)

namespace WordTree

/-- Solves a tree from the leaves up, the operands of a node from the left to the right. -/
def solve (s : Solver) : WordTree → Evaluation → Value × Evaluation
  | leaf c, e => (c.value, e)
  | node op span left right, e =>
    let l := left.solve s e
    let r := right.solve s l.2
    s.solve l.1 ⟨op.toBinary, span⟩ r.1 r.2
  | shiftLeft span left amount, e =>
    let l := left.solve s e
    s.solve l.1 ⟨.shl, span⟩ amount.value l.2

/-- The word that a tree is. -/
def word : WordTree → UInt64
  | leaf c => c.word
  | node op _ left right => op.apply left.word right.word
  | shiftLeft _ left amount => left.word <<< amount.word

/-- Trees made of one another by exchanging and regrouping operands, wherever the
operators stand in a source. -/
inductive Regrouped : WordTree → WordTree → Prop where
  | refl (t : WordTree) : Regrouped t t
  | symm {t u : WordTree} : Regrouped t u → Regrouped u t
  | trans {t u v : WordTree} : Regrouped t u → Regrouped u v → Regrouped t v
  | exchange {op : WordOp} {before after : Span} (t u : WordTree) :
      op.regroups = true → Regrouped (node op before t u) (node op after u t)
  | rotate {op : WordOp} {outer inner outer' inner' : Span} (t u v : WordTree) :
      op.regroups = true →
      Regrouped (node op outer (node op inner t u) v) (node op outer' t (node op inner' u v))
  | node {t t' u u' : WordTree} {before after : Span} (op : WordOp) :
      Regrouped t t' → Regrouped u u' → Regrouped (node op before t u) (node op after t' u')
  | shiftLeft {t t' : WordTree} {before after : Span} (amount : ShiftAmount) :
      Regrouped t t' → Regrouped (shiftLeft before t amount) (shiftLeft after t' amount)

theorem Regrouped.word_eq {t u : WordTree} (regrouped : Regrouped t u) : t.word = u.word := by
  induction regrouped with
  | refl => rfl
  | symm _ ih => exact ih.symm
  | trans _ _ ih ih' => exact ih.trans ih'
  | exchange t u regroups => exact WordOp.apply_comm regroups t.word u.word
  | rotate t u v regroups => exact WordOp.apply_assoc regroups t.word u.word v.word
  | node op _ _ left right => rw [word, word, left, right]
  | shiftLeft amount _ left => rw [word, word, left]

/-- A whole tree is carried to its word and nothing is reported. -/
theorem carries_solve (s : Solver) (t : WordTree) (e : Evaluation) :
    (t.solve s e).1.Carries t.word ∧ e.Quiet (t.solve s e).2 := by
  induction t generalizing e with
  | leaf c => exact ⟨c.carries, rfl, rfl⟩
  | node op span left right ihLeft ihRight =>
      obtain ⟨carriesLeft, quietLeft⟩ := ihLeft e
      obtain ⟨carriesRight, quietRight⟩ := ihRight (left.solve s e).2
      obtain ⟨carries, quiet⟩ := s.solve_word op span _ carriesLeft carriesRight
      exact ⟨carries, (quietLeft.trans quietRight).trans quiet⟩
  | shiftLeft span left amount ih =>
      obtain ⟨carriesLeft, quietLeft⟩ := ih e
      obtain ⟨carries, quiet⟩ := s.solve_shiftLeft span _ carriesLeft amount.carries amount.below
        amount.isShiftAmount
      exact ⟨carries, quietLeft.trans quiet⟩

/-- **Trees fold as words.**  Solving a tree reports nothing and gives a known integer,
of the type of an integer, which is the word that the tree is; so it is at every node,
which is the root of a tree.  Regrouping the tree gives the same word, whichever solver
and evaluation it is solved in. -/
theorem solve_exact (s : Solver) (t : WordTree) (e : Evaluation) :
    e.Quiet (t.solve s e).2 ∧ (t.solve s e).1.Carries t.word ∧
      (t.solve s e).1.constant.bind Constant.asUInt64? = some t.word ∧
      ∀ u, Regrouped t u → ∀ (s' : Solver) (e' : Evaluation),
        (u.solve s' e').1.constant.bind Constant.asUInt64? = some t.word := by
  obtain ⟨carries, quiet⟩ := carries_solve s t e
  refine ⟨quiet, carries, carries.asUInt64?_eq, fun u regrouped s' e' => ?_⟩
  rw [regrouped.word_eq]
  exact (carries_solve s' u e').1.asUInt64?_eq

/-- `-3 * (200 + 7)`, the first and the last signed, is `(7 + 200) * -3`. -/
theorem solve_exact_regrouped_product :
    ∃ t u : WordTree,
      Regrouped t u ∧ t.word = 18446744073709550995 ∧
        ∀ (s : Solver) (e : Evaluation),
          (u.solve s e).1.constant.bind Constant.asUInt64? = some 18446744073709550995 := by
  let a : IntegerConstant := ⟨.int .i8 (-3), rfl, .inl ⟨-3, rfl, rfl⟩⟩
  let b : IntegerConstant := ⟨.uint .u8 200, rfl, .inr ⟨200, rfl, rfl⟩⟩
  let c : IntegerConstant := ⟨.int .i64 7, rfl, .inl ⟨7, rfl, rfl⟩⟩
  let t := node .mul .detached (leaf a) (node .add .detached (leaf b) (leaf c))
  let m := node .mul .detached (node .add .detached (leaf b) (leaf c)) (leaf a)
  let u := node .mul .detached (node .add .detached (leaf c) (leaf b)) (leaf a)
  have product : Regrouped t m := .exchange _ _ rfl
  have sum : Regrouped m u := .node .mul (.exchange _ _ rfl) (.refl _)
  have regrouped : Regrouped t u := .trans product sum
  have word : t.word = 18446744073709550995 := by decide
  exact ⟨t, u, regrouped, word, fun s e =>
    word ▸ (solve_exact s t e).2.2.2 u regrouped s e⟩

end WordTree

end BinarySolver
