/-
# BinarySolver.Command.Solve -- solving an operation given as three texts

The three texts, with a space between them, are the source that diagnostics show.
The operator is read first, then the operands from left to right.
-/
import BinarySolver.Json
import BinarySolver.Operand
import BinarySolver.Solver
import BinarySolver.Spelling

namespace BinarySolver.Command

set_option autoImplicit false

structure SolveRequest where
  left : String
  op : String
  right : String
  wordSize : WordSize

inductive SolveError where
  | left (e : OperandError)
  | right (e : OperandError)
  | operator (e : UnknownOperator)
deriving DecidableEq

def SolveError.message : SolveError → String
  | left e => "left operand: " ++ e.message
  | right e => "right operand: " ++ e.message
  | operator e => e.message

structure Solved where
  value : Value
  spelling : String
  evaluation : Evaluation
  sources : SourceMap

namespace SolveRequest

/-- The three texts as one source. -/
def source (r : SolveRequest) : String := r.left ++ " " ++ r.op ++ " " ++ r.right

/-- Octets of a text from an offset on. -/
def spanOf (id : SourceId) (start : Nat) (text : String) : Span :=
  ⟨some id, start, start + text.utf8ByteSize⟩

def leftSpan (r : SolveRequest) (id : SourceId) : Span := spanOf id 0 r.left

def operatorSpan (r : SolveRequest) (id : SourceId) : Span :=
  spanOf id ((r.leftSpan id).stop + 1) r.op

def rightSpan (r : SolveRequest) (id : SourceId) : Span :=
  spanOf id ((r.operatorSpan id).stop + 1) r.right

def solve (r : SolveRequest) : Except SolveError Solved :=
  match BinaryOp.ofSymbol (String.ofList (Text.trim r.op.toList)) with
  | .error e => .error (.operator e)
  | .ok op =>
    match Operand.read r.left.toList with
    | .error e => .error (.left e)
    | .ok left =>
      match Operand.read r.right.toList with
      | .error e => .error (.right e)
      | .ok right =>
        let (id, sources) := SourceMap.oneLiner r.source
        let config : Config := { Config.standard with wordSize := r.wordSize }
        let (value, evaluation) := (Solver.ofConfig config).solve (left.withSpan (r.leftSpan id))
          ⟨op, r.operatorSpan id⟩ (right.withSpan (r.rightSpan id)) .empty
        let spelling := ((Speller.ofConfig config).withSources sources).spell value.type
        .ok { value, spelling, evaluation, sources }

end SolveRequest

namespace Solved

/-- A line of a report. -/
def line (title text : String) : String := title ++ ": " ++ text ++ "\n"

/-- One fact a line: the type, its spelling, the constant and what is emitted for it. -/
def toText (s : Solved) : String :=
  line "type" s.value.type.signature ++ line "cxx" s.spelling ++
    ((s.value.constant.map fun c => line "const" c.toText).getD "") ++
    ((s.value.initializer.map fun i => line "model" i.text).getD "")

def diagnosticJson (d : Diagnostic) : Json :=
  .object
    ([("kind", .string d.kind.key), ("severity", .string d.severity.name),
      ("message", .string d.message), ("start", Json.ofInt d.span.start),
      ("end", Json.ofInt d.span.stop)] ++
      if d.hints.isEmpty then [] else [("hints", .array (d.hints.map Json.string))])

/-- The same facts and the diagnostics as an object; what is not known is left out. -/
def toJson (s : Solved) : Json :=
  .object
    ([("type", .string s.value.type.signature), ("cxx", .string s.spelling)] ++
      (s.value.constant.map fun c => ("constant", Json.ofConstant c)).toList ++
      (s.value.initializer.map fun i => ("model", Json.string i.text)).toList ++
      [("diagnostics", .array (s.evaluation.diagnostics.map diagnosticJson)),
        ("failed", .bool s.evaluation.failed)])

end Solved

end BinarySolver.Command
