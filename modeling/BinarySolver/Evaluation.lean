/-
# BinarySolver.Evaluation -- the record of a run of operations

Diagnostics are collected, never thrown: an operation that fails does not hide what
is wrong with the next.  A run that has met an error has failed for good.  Beside
the diagnostics a run keeps a trace of what was decided, for a reader who asks.
-/
import BinarySolver.Constant
import BinarySolver.Diagnostic
import BinarySolver.Operator

namespace BinarySolver

set_option autoImplicit false

/-- The rule by which an operation is solved. -/
inductive Handler where
  | logical
  | function
  | array
  | slice
  | pointer
  | enum
  | struct
  | trait
  | nil
  | any
  | bool
  | str
  | float
  | unsigned
  | signed
deriving DecidableEq

def Handler.name : Handler → String
  | logical => "Logical"
  | function => "Function"
  | array => "Array"
  | slice => "Slice"
  | pointer => "Pointer"
  | enum => "Enum"
  | struct => "Struct"
  | trait => "Trait"
  | nil => "Nil"
  | any => "Any"
  | bool => "Bool"
  | str => "Str"
  | float => "Float"
  | unsigned => "Unsigned"
  | signed => "Signed"

/-- What was decided on the way. -/
inductive Event where
  /-- Operands of these signatures go to a handler, if there is one. -/
  | dispatched (op : BinaryOp) (left right : String) (handler : Option Handler)
  | folded (op : BinaryOp) (left right result : Constant)
  /-- A zero of a category stands in for the quotient by zero. -/
  | zeroSubstituted (op : BinaryOp) (category : Category)
deriving DecidableEq

structure Evaluation where
  diagnostics : List Diagnostic
  /-- An error has been reported. -/
  failed : Bool
  events : List Event

/-- A run that has failed, with all that was reported in it. -/
structure EvaluationFailed where
  diagnostics : List Diagnostic

namespace Evaluation

def empty : Evaluation := { diagnostics := [], failed := false, events := [] }

/-- Announces a diagnostic of a kind: the run has failed if the kind says so, and
nothing is collected yet. -/
def announce (e : Evaluation) (kind : DiagnosticKind) : Evaluation :=
  { e with failed := e.failed || kind.marksFailure }

/-- Collects a diagnostic behind the others. -/
def emit (e : Evaluation) (d : Diagnostic) : Evaluation :=
  { e with diagnostics := e.diagnostics ++ [d] }

/-- What is announced is collected. -/
def report (e : Evaluation) (d : Diagnostic) : Evaluation := (e.announce d.kind).emit d

def reportAll (e : Evaluation) (ds : List Diagnostic) : Evaluation := ds.foldl report e

def traceAll (e : Evaluation) (events : List Event) : Evaluation :=
  { e with events := e.events ++ events }

@[simp] theorem diagnostics_report (e : Evaluation) (d : Diagnostic) :
    (e.report d).diagnostics = e.diagnostics ++ [d] := rfl

@[simp] theorem failed_report (e : Evaluation) (d : Diagnostic) :
    (e.report d).failed = (e.failed || d.isError) := rfl

@[simp] theorem diagnostics_reportAll (e : Evaluation) (ds : List Diagnostic) :
    (e.reportAll ds).diagnostics = e.diagnostics ++ ds := by
  induction ds generalizing e with
  | nil => exact (List.append_nil _).symm
  | cons d ds ih =>
      rw [reportAll, List.foldl_cons, ← reportAll, ih, diagnostics_report, List.append_assoc]
      rfl

@[simp] theorem failed_reportAll (e : Evaluation) (ds : List Diagnostic) :
    (e.reportAll ds).failed = (e.failed || ds.any Diagnostic.isError) := by
  induction ds generalizing e with
  | nil => exact (Bool.or_false _).symm
  | cons d ds ih =>
      rw [reportAll, List.foldl_cons, ← reportAll, ih, failed_report, List.any_cons, Bool.or_assoc]

@[simp] theorem diagnostics_traceAll (e : Evaluation) (events : List Event) :
    (e.traceAll events).diagnostics = e.diagnostics := rfl

@[simp] theorem failed_traceAll (e : Evaluation) (events : List Event) :
    (e.traceAll events).failed = e.failed := rfl

def countErrors (ds : List Diagnostic) : Nat := ds.countP Diagnostic.isError

def errorCount (e : Evaluation) : Nat := countErrors e.diagnostics

/-- The diagnostics of a run, as an error if the run has failed. -/
def result (e : Evaluation) : Except EvaluationFailed (List Diagnostic) :=
  if e.failed then .error ⟨e.diagnostics⟩ else .ok e.diagnostics

end Evaluation

def EvaluationFailed.message (e : EvaluationFailed) : String :=
  "evaluation failed with " ++
    String.ofList (Numeral.decimalText (Evaluation.countErrors e.diagnostics)) ++ " errors"

end BinarySolver
