/-
# BinarySolver.Proofs.RequestPlaces -- where the texts of a request stand

The source of a request is its three texts with a space between each two.  The operands and
the operator stand at the octets of their own texts, which lie apart and begin and end
between characters (`places`).  So the answer and all that is reported point at texts that
were given: at the operator, and for types that cannot meet at the two operands besides
(`solve_places`).
-/
import BinarySolver.Proofs.Pointing
import BinarySolver.Proofs.TextOperand

namespace BinarySolver

set_option autoImplicit false

namespace Span

/-- The span begins and ends between two characters of the source, and the octets within
are those of the text. -/
structure Cuts (span : Span) (source : Source) (text : String) : Prop where
  belongs : span.source = some source.id
  start : String.Pos.Raw.IsValid source.content ⟨span.start⟩
  stop : String.Pos.Raw.IsValid source.content ⟨span.stop⟩
  octets : source.content.toByteArray.extract span.start span.stop = text.toByteArray

end Span

namespace Json

/-- The member of an object that has a name. -/
def member? (name : String) : Json → Option Json
  | object members => (members.find? fun entry => entry.1 == name).map Prod.snd
  | _ => none

end Json

namespace Command

namespace SolveRequest

variable {r : SolveRequest} {s : Solved} {source : Source}

/-! ## The three texts -/

/-- A text is cut out behind the octets of what stands before it. -/
theorem cuts_spanOf (before text after : String)
    (parts : source.content = before ++ text ++ after) :
    (spanOf source.id before.utf8ByteSize text).Cuts source text where
  belongs := rfl
  start := by
    rw [String.Pos.Raw.isValid_iff_exists_append]
    exact ⟨before, text ++ after, by rw [parts, String.append_assoc], rfl⟩
  stop := by
    rw [String.Pos.Raw.isValid_iff_exists_append]
    refine ⟨before ++ text, after, parts, ?_⟩
    rw [String.Pos.Raw.ext_iff]
    exact String.utf8ByteSize_append.symm
  octets := by
    have size : (before ++ text).toByteArray.size = before.utf8ByteSize + text.utf8ByteSize :=
      String.utf8ByteSize_append
    unfold spanOf
    rw [parts, String.toByteArray_append, ← size, ByteArray.extract_append_size_left, size,
      String.toByteArray_append]
    exact ByteArray.extract_append_eq_right rfl rfl

/-- Three spans cut the three texts of a request out of a source, one behind the other. -/
structure Places (r : SolveRequest) (source : Source) (left operator right : Span) : Prop where
  cutsLeft : left.Cuts source r.left
  cutsOperator : operator.Cuts source r.op
  cutsRight : right.Cuts source r.right
  before : left.stop < operator.start
  behind : operator.stop < right.start

theorem utf8ByteSize_space : " ".utf8ByteSize = 1 := by decide

theorem places (content : source.content = r.source) :
    r.Places source (r.leftSpan source.id) (r.operatorSpan source.id) (r.rightSpan source.id) where
  cutsLeft :=
    cuts_spanOf "" r.left (" " ++ r.op ++ " " ++ r.right)
      (by simp [content, SolveRequest.source, String.append_assoc])
  cutsOperator := by
    have offset : (r.leftSpan source.id).stop + 1 = (r.left ++ " ").utf8ByteSize := by
      simp [leftSpan, spanOf, utf8ByteSize_space]
    rw [operatorSpan, offset]
    exact cuts_spanOf (r.left ++ " ") r.op (" " ++ r.right)
      (by simp [content, SolveRequest.source, String.append_assoc])
  cutsRight := by
    have offset : (r.operatorSpan source.id).stop + 1 =
        (r.left ++ " " ++ r.op ++ " ").utf8ByteSize := by
      simp [operatorSpan, leftSpan, spanOf, utf8ByteSize_space]
    rw [rightSpan, offset]
    exact cuts_spanOf (r.left ++ " " ++ r.op ++ " ") r.right ""
      (by simp [content, SolveRequest.source])
  before := Nat.lt_succ_self _
  behind := Nat.lt_succ_self _

end SolveRequest

namespace Solved

/-! ## The report -/

theorem member?_diagnostics (s : Solved) : s.toJson.member? "diagnostics" =
    some (.array (s.evaluation.diagnostics.map diagnosticJson)) := by
  unfold toJson
  cases s.value.constant <;> cases s.value.initializer <;> rfl

theorem member?_failed (s : Solved) :
    s.toJson.member? "failed" = some (.bool s.evaluation.failed) := by
  unfold toJson
  cases s.value.constant <;> cases s.value.initializer <;> rfl

theorem member?_severity (d : Diagnostic) :
    (diagnosticJson d).member? "severity" = some (.string "error") ↔ d.severity = .error := by
  have told : (diagnosticJson d).member? "severity" = some (.string d.severity.name) := rfl
  rw [told]
  cases d.severity <;> simp [Severity.name]

/-- A report says that the request has failed exactly if it lists an error. -/
theorem exists_report (s : Solved) (consistent : s.evaluation.Consistent) :
    ∃ (listed : List Json) (failed : Bool),
      s.toJson.member? "diagnostics" = some (.array listed) ∧
      listed = s.evaluation.diagnostics.map diagnosticJson ∧
      s.toJson.member? "failed" = some (.bool failed) ∧
      (failed = true ↔ ∃ d ∈ listed, d.member? "severity" = some (.string "error")) := by
  refine ⟨_, _, s.member?_diagnostics, rfl, s.member?_failed, ?_⟩
  rw [consistent.failed_iff]
  simp only [List.mem_map, exists_exists_and_eq_and, member?_severity]

end Solved

namespace SolveRequest

variable {r : SolveRequest} {s : Solved}

/-- An operand that is read is shown where it stands, with its type. -/
theorem relatedTo_of_read {text : List Char} {v : Value} (reads : Operand.read text = .ok v)
    (id : SourceId) (start : Nat) (shown : String) :
    Operation.relatedTo (v.withSpan (spanOf id start shown)) =
      [⟨spanOf id start shown, "this is `" ++ v.type.resolve.signature ++ "`"⟩] := by
  rw [Descriptor.resolve_of_aliasOf (Operand.aliasOf_of_read reads)]
  rfl

theorem diagnostics_solution {op : BinaryOp} {left right : Value} (reads : r.Reads op left right)
    {d : Diagnostic} (reported : d ∈ (r.solution op left right).2.diagnostics) :
    d.span = r.operatorSpan r.sourceId ∧
      d.related = if d.kind = .incompatibleTypes then
          [⟨r.leftSpan r.sourceId, "this is `" ++ left.type.resolve.signature ++ "`"⟩,
            ⟨r.rightSpan r.sourceId, "this is `" ++ right.type.resolve.signature ++ "`"⟩]
        else [] := by
  have empty : Evaluation.empty.diagnostics = [] := rfl
  rw [solution, Solver.solve_diagnostics, empty, List.nil_append, reads.ruling_eq] at reported
  have points := Solver.settle_points _ _ d reported
  dsimp only at points
  rwa [leftSpan, relatedTo_of_read reads.left, ← leftSpan, rightSpan,
    relatedTo_of_read reads.right] at points

theorem consistent_solution (r : SolveRequest) (op : BinaryOp) (left right : Value) :
    (r.solution op left right).2.Consistent :=
  Evaluation.consistent_empty.solve ⟨_, _, _, _⟩

/-- **Answers point at the texts that were given.**  Whatever the three texts are, the source
of an answer is the texts with spaces between them; the operands and the operator of the
operation that is solved stand where their texts are cut out of it, one behind the other; the
value and every diagnostic stand at the operator; a diagnostic is shown at no further place
but, for types that cannot meet, at the left and then at the right operand, each with its own
type; and the report says that the request has failed exactly if it lists an error. -/
theorem solve_places (done : r.solve = .ok s) :
    ∃ op left right source, r.Reads op left right ∧
      s.sources.toList = [source] ∧
      source.content = r.left ++ " " ++ r.op ++ " " ++ r.right ∧
      r.Places source (r.leftSpan source.id) (r.operatorSpan source.id) (r.rightSpan source.id) ∧
      (s.value, s.evaluation) =
        (Solver.ofConfig { Config.standard with wordSize := r.wordSize }).solve
          (left.withSpan (r.leftSpan source.id)) ⟨op, r.operatorSpan source.id⟩
          (right.withSpan (r.rightSpan source.id)) .empty ∧
      s.value.span = r.operatorSpan source.id ∧
      (∀ d ∈ s.evaluation.diagnostics, d.span = r.operatorSpan source.id ∧ d.related =
        if d.kind = .incompatibleTypes then
          [⟨r.leftSpan source.id, "this is `" ++ left.type.resolve.signature ++ "`"⟩,
            ⟨r.rightSpan source.id, "this is `" ++ right.type.resolve.signature ++ "`"⟩]
        else []) ∧
      ∃ listed failed, s.toJson.member? "diagnostics" = some (.array listed) ∧
        listed = s.evaluation.diagnostics.map Solved.diagnosticJson ∧
        s.toJson.member? "failed" = some (.bool failed) ∧
        (failed = true ↔ ∃ d ∈ listed, d.member? "severity" = some (.string "error")) := by
  obtain ⟨op, left, right, reads⟩ := exists_reads_of_solve done
  obtain ⟨spelling, answered⟩ := reads.solve_eq
  rw [answered] at done
  cases done
  refine ⟨op, left, right, ⟨0, .oneLiner, r.source⟩, reads, rfl, rfl, places rfl, rfl, ?_, ?_, ?_⟩
  · exact Solver.span_solve _ _ _ _ .empty
  · exact fun d reported => diagnostics_solution reads reported
  · exact Solved.exists_report _ (consistent_solution r op left right)

/-- Blanks around the operator are cut out with it, and places are counted in octets. -/
theorem solve_places_strangers :
    ∃ s, solve ⟨"i32=5", " + ", "str=é", .w64⟩ = .ok s ∧ s.value.span = ⟨some 0, 6, 9⟩ ∧
      s.evaluation.diagnostics.map (fun d => (d.span, d.related)) =
        [(⟨some 0, 6, 9⟩,
          [⟨⟨some 0, 0, 5⟩, "this is `i32`"⟩, ⟨⟨some 0, 10, 16⟩, "this is `str`"⟩])] := by
  let r : SolveRequest := ⟨"i32=5", " + ", "str=é", .w64⟩
  have type : TypeExpr.read "i32".toList = .ok (.scalar .i32) :=
    TypeExpr.read_name (c := .i32) (by decide)
  have first : '=' ∉ "i32".toList := by decide
  have five : Operand.read "i32=5".toList = .ok (.int .i32 5) := by
    refine (Operand.read_assigned first "5".toList).trans ?_
    rw [type]
    rfl
  have plus : BinaryOp.ofSymbol (String.ofList (Text.trim " + ".toList)) = .ok .add :=
    BinaryOp.ofSymbol_symbol .add
  have reads : r.Reads .add (.int .i32 5) (.string "é") := ⟨plus, five, Operand.read_text "é"⟩
  obtain ⟨spelling, answered⟩ := reads.solve_eq
  have kinds : (r.solution .add (.int .i32 5) (.string "é")).2.diagnostics.map Diagnostic.kind =
      [.incompatibleTypes] := by
    have choice : (Handler.priority.find? fun entry =>
        entry.2 (.scalar .i32) || entry.2 (.scalar .str)).map Prod.fst = some .str := by decide
    have selected : Handler.select ⟨(Value.int .i32 5).withSpan (r.leftSpan r.sourceId),
        (Value.string "é").withSpan (r.rightSpan r.sourceId),
        ⟨.add, r.operatorSpan r.sourceId⟩⟩ = some .str := choice
    rw [solution, Solver.solve_diagnostics, reads.ruling_eq, Solver.settle, selected]
    rfl
  obtain ⟨op, left, right, source, again, sources, -, -, -, span, points, -⟩ :=
    solve_places answered
  obtain rfl : (.int .i32 5 : Value) = left :=
    Except.ok.inj (reads.left.symm.trans again.left)
  obtain rfl : (.string "é" : Value) = right :=
    Except.ok.inj (reads.right.symm.trans again.right)
  obtain rfl : ⟨0, .oneLiner, r.source⟩ = source := List.singleton_inj.1 sources
  obtain ⟨d, one, kind⟩ := List.map_eq_singleton_iff.1 kinds
  have operator : r.operatorSpan 0 = ⟨some 0, 6, 9⟩ := by decide
  have left : r.leftSpan 0 = ⟨some 0, 0, 5⟩ := by decide
  have right : r.rightSpan 0 = ⟨some 0, 10, 16⟩ := by decide
  rw [operator, left, right] at points
  rw [operator] at span
  obtain ⟨place, related⟩ := points d (by rw [one]; exact List.mem_singleton_self d)
  rw [kind, if_pos rfl] at related
  refine ⟨_, answered, span, ?_⟩
  dsimp only
  rw [one, List.map_cons, place, related]
  rfl

end SolveRequest

end Command

end BinarySolver
