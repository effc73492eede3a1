/-
# BinarySolver.Proofs.Request -- requests, and the operations that they stand for

A request is answered if its operator and its operands are read, and in no other case
(`exists_reads_of_solve`); the answer is the solution of the operation that they are read as
(`Reads.solve_eq`).  The type of an operand is written out, so it is neither an alias nor an
enum, and the operation is ruled on as it stands (`Reads.ruling_eq`).
-/
import BinarySolver.Command.Solve
import BinarySolver.Proofs.Reading
import BinarySolver.Proofs.Settle

namespace BinarySolver

set_option autoImplicit false

namespace TypeTree

/-- No type expression is an enum: the names of those need more than a name. -/
theorem isEnum_descriptor (t : TypeTree) : t.descriptor.isEnum = false := by
  refine Bool.eq_false_iff.2 fun enum => ?_
  obtain ⟨category, plain⟩ := Descriptor.isA_iff.1 enum
  obtain ⟨n, gives⟩ := exists_gives_of_isPlain plain
  generalize t.descriptor = type at category gives
  cases gives with
  | scalar c known scalar =>
      have same : c = .enum := category
      rw [same] at scalar
      exact absurd scalar (by decide)
  | function | struct => cases category

end TypeTree

namespace Operand

variable {text : List Char} {v : Value}

/-- An operand is `nil` or of the type of a type expression. -/
theorem type_of_read (reads : read text = .ok v) :
    v.type = .nil ∨ ∃ t : TypeTree, v.type = t.descriptor := by
  unfold read at reads
  dsimp only at reads
  split at reads
  · cases reads
    exact .inl rfl
  · split at reads
    · obtain ⟨type, known, rfl⟩ := TypeExpr.exists_of_map_eq_ok reads
      obtain ⟨t, -, rfl⟩ := TypeExpr.exists_derives_of_read _ _ known
      exact .inr ⟨t, rfl⟩
    · split at reads
      · cases reads
      · rename_i known
        obtain ⟨c, -, rfl⟩ := TypeExpr.exists_of_map_eq_ok reads
        obtain ⟨t, -, rfl⟩ := TypeExpr.exists_derives_of_read _ _ known
        exact .inr ⟨t, rfl⟩

theorem aliasOf_of_read (reads : read text = .ok v) : v.type.aliasOf = none := by
  rcases type_of_read reads with nil | ⟨t, type⟩
  · rw [nil]
    rfl
  · rw [type]
    exact t.aliasOf_descriptor

theorem isEnum_of_read (reads : read text = .ok v) : v.type.isEnum = false := by
  rcases type_of_read reads with nil | ⟨t, type⟩
  · rw [nil]
    rfl
  · rw [type]
    exact t.isEnum_descriptor

end Operand

namespace Command.SolveRequest

variable {r : SolveRequest} {s : Solved} {op : BinaryOp} {left right : Value}

/-- The three texts are read, as an operator and two operands. -/
structure Reads (r : SolveRequest) (op : BinaryOp) (left right : Value) : Prop where
  operator : BinaryOp.ofSymbol (String.ofList (Text.trim r.op.toList)) = .ok op
  left : Operand.read r.left.toList = .ok left
  right : Operand.read r.right.toList = .ok right

/-- The number of the one source. -/
def sourceId (r : SolveRequest) : SourceId := (SourceMap.oneLiner r.source).1

/-- The operation on the two operands, each of the three where its text stands. -/
def solution (r : SolveRequest) (op : BinaryOp) (left right : Value) : Value × Evaluation :=
  (Solver.ofConfig { Config.standard with wordSize := r.wordSize }).solve
    (left.withSpan (r.leftSpan r.sourceId)) ⟨op, r.operatorSpan r.sourceId⟩
    (right.withSpan (r.rightSpan r.sourceId)) .empty

/-- The answer to a request that is read. -/
theorem Reads.solve_eq (reads : r.Reads op left right) : ∃ spelling,
    r.solve = .ok
      { value := (r.solution op left right).1
        spelling
        evaluation := (r.solution op left right).2
        sources := (SourceMap.oneLiner r.source).2 } := by
  unfold solve
  rw [reads.operator, reads.left, reads.right]
  exact ⟨_, rfl⟩

/-- A request is answered only if it is read. -/
theorem exists_reads_of_solve (done : r.solve = .ok s) :
    ∃ op left right, r.Reads op left right := by
  unfold solve at done
  split at done
  · cases done
  rename_i op operator
  split at done
  · cases done
  rename_i left first
  split at done
  · cases done
  rename_i right second
  exact ⟨op, left, right, operator, first, second⟩

/-- What is read is ruled on as it stands. -/
theorem Reads.ruling_eq (reads : r.Reads op left right) (s : Solver) (i j k : Span) :
    s.ruling (left.withSpan i) (right.withSpan j) ⟨op, k⟩ =
      s.settle ⟨left.withSpan i, right.withSpan j, ⟨op, k⟩⟩ := by
  have first := Descriptor.resolve_of_aliasOf (Operand.aliasOf_of_read reads.left)
  have second := Descriptor.resolve_of_aliasOf (Operand.aliasOf_of_read reads.right)
  have given : Solver.operation (left.withSpan i) ⟨op, k⟩ (right.withSpan j) =
      ⟨left.withSpan i, right.withSpan j, ⟨op, k⟩⟩ := by
    simp only [Solver.operation, Value.withSpan, first, second]
  have bare : (⟨left.withSpan i, right.withSpan j, ⟨op, k⟩⟩ : Operation).unwrapEnums? = none := by
    have noLeft := Descriptor.underlying?_of_isEnum_eq_false (Operand.isEnum_of_read reads.left)
    have noRight := Descriptor.underlying?_of_isEnum_eq_false (Operand.isEnum_of_read reads.right)
    simp only [Operation.unwrapEnums?, Operation.unwrapEnum?, Value.withSpan, noLeft, noRight,
      Option.map_none]
  have last : (⟨left.withSpan i, right.withSpan j, ⟨op, k⟩⟩ : Operation).next? = none := by
    rw [Operation.next?, bare, ite_self]
  rw [Solver.ruling, given, Operation.settled_of_next?_eq_none last]

end Command.SolveRequest

end BinarySolver
