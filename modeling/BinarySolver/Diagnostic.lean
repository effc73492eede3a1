/-
# BinarySolver.Diagnostic -- what can be wrong with an operation

A diagnostic has a kind, and the kind decides its severity, its hint and the
template of its message.  Errors make an evaluation fail, warnings do not.
-/
import BinarySolver.Numeral.Layout
import BinarySolver.Source
import BinarySolver.Text.Substitution

namespace BinarySolver

set_option autoImplicit false

inductive Severity where
  | error
  | warning
deriving DecidableEq

def Severity.name : Severity → String
  | error => "error"
  | warning => "warning"

inductive DiagnosticKind where
  | incompatibleTypes
  | operatorNotForType
  | logicalNotBool
  | divideByZero
  | bitshiftMustUnsigned
deriving DecidableEq

namespace DiagnosticKind

def all : List DiagnosticKind :=
  [incompatibleTypes, operatorNotForType, logicalNotBool, divideByZero, bitshiftMustUnsigned]

/-- The key under which a kind is catalogued. -/
def key : DiagnosticKind → String
  | incompatibleTypes => "incompatible_types"
  | operatorNotForType => "operator_not_for_jntype"
  | logicalNotBool => "logical_not_bool"
  | divideByZero => "divide_by_zero"
  | bitshiftMustUnsigned => "bitshift_must_unsigned"

def ofKey? (key : String) : Option DiagnosticKind := all.find? fun k => k.key == key

def severity : DiagnosticKind → Severity
  | divideByZero | bitshiftMustUnsigned => .warning
  | incompatibleTypes | operatorNotForType | logicalNotBool => .error

/-- An evaluation that meets this kind has failed. -/
def marksFailure (k : DiagnosticKind) : Bool := k.severity == .error

def hint? : DiagnosticKind → Option String
  | bitshiftMustUnsigned => some "cast the shift amount to an unsigned type"
  | logicalNotBool => some "compare against a value to get a `bool`"
  | _ => none

/-- The message that needs no arguments. -/
def fallback : DiagnosticKind → String
  | incompatibleTypes => "incompatible types"
  | operatorNotForType => "operator is not defined for this type"
  | logicalNotBool => "logical operands must be `bool`"
  | divideByZero => "division by zero"
  | bitshiftMustUnsigned => "shift amount must be unsigned"

/-- The message with places for its arguments, which are numbers in braces. -/
def template : DiagnosticKind → String
  | incompatibleTypes => "incompatible types: `\x7b0\x7d` and `\x7b1\x7d`"
  | operatorNotForType => "operator `\x7b0\x7d` is not defined for `\x7b1\x7d`"
  | logicalNotBool => "operator `\x7b0\x7d` requires `bool` operands"
  | divideByZero => "division by zero in `\x7b0\x7d`"
  | bitshiftMustUnsigned => "shift amount `\x7b0\x7d` must be unsigned"

/-- The place of an argument in a template. -/
def placeholder (i : Nat) : List Char := '\x7b' :: Numeral.decimalText i ++ ['\x7d']

/-- Fills the places from number `i` on, one after the other: a place that an earlier
argument brings in is filled by a later one. -/
def fill (i : Nat) : List String → List Char → List Char
  | [], text => text
  | argument :: rest, text =>
    fill (i + 1) rest (Text.substitute (placeholder i) argument.toList text)

/-- Without arguments the fallback, else the template filled with them. -/
def message (k : DiagnosticKind) (arguments : List String) : String :=
  if arguments.isEmpty then k.fallback
  else String.ofList (fill 0 arguments k.template.toList)

end DiagnosticKind

/-- A place that has to do with a diagnostic, and why. -/
structure Related where
  span : Span
  message : String
deriving DecidableEq

structure Diagnostic where
  kind : DiagnosticKind
  span : Span
  message : String
  related : List Related
deriving DecidableEq

namespace Diagnostic

/-- A diagnostic with the message of its arguments. -/
def report (kind : DiagnosticKind) (span : Span) (arguments : List String)
    (related : List Related) : Diagnostic :=
  { kind, span, message := kind.message arguments, related }

def severity (d : Diagnostic) : Severity := d.kind.severity

def isError (d : Diagnostic) : Bool := d.severity == .error

def hints (d : Diagnostic) : List String := d.kind.hint?.toList

/-- The octets of a span as they are shown on one line. -/
def rangeText (span : Span) : String :=
  String.ofList (Numeral.decimalText span.start ++ ['.', '.'] ++ Numeral.decimalText span.stop)

/-- A diagnostic on one line. -/
def toText (d : Diagnostic) : String :=
  d.severity.name ++ "[" ++ d.kind.key ++ "] at " ++ rangeText d.span ++ ": " ++ d.message ++
    String.join (d.related.map fun r =>
      " (related: " ++ r.message ++ " at " ++ rangeText r.span ++ ")") ++
    String.join (d.hints.map fun hint => " (hint: " ++ hint ++ ")")

end Diagnostic

end BinarySolver
