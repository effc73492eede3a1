/-
# BinarySolver.Command -- the command line

There are two commands: `solve` solves an operation, `render` spells a type.  What a
run writes and how it ends is a value; only `BinarySolver.Main` does the writing.
-/
import BinarySolver.Command.Arguments
import BinarySolver.Command.Solve
import BinarySolver.Command.Spell
import BinarySolver.Diagnostic.Snippet

namespace BinarySolver.Command

set_option autoImplicit false

/-- How a run ends. -/
inductive Exit where
  /-- The command line is not one that the program takes. -/
  | usage
  | done (code : Nat) (stdout stderr : String)
deriving DecidableEq

/-! ## Logging -/

inductive LogLevel where
  | debug
  | trace
deriving DecidableEq

/-- Asked once for more words a run shows what was folded, asked again also how it
was dispatched. -/
def LogLevel.shownAt (verbosity : Nat) : LogLevel → Bool
  | debug => 1 ≤ verbosity
  | trace => 2 ≤ verbosity

def LogLevel.name : LogLevel → String
  | debug => "DEBUG"
  | trace => "TRACE"

/-- A message with its fields, in order. -/
def logLine (level : LogLevel) (target message : String) (fields : List (String × String)) :
    String :=
  level.name ++ " " ++ target ++ ": " ++ message ++
    String.join (fields.map fun field => " " ++ field.1 ++ "=" ++ field.2) ++ "\n"

def handlerText : Option Handler → String
  | none => "None"
  | some h => "Some(" ++ h.name ++ ")"

def solverTarget : String := "jane_compiler::solver::handlers"

/-- The line of an event, if it is asked for. -/
def eventLine (verbosity : Nat) (event : Event) : String :=
  let entry (level : LogLevel) (message : String) (fields : List (String × String)) : String :=
    if level.shownAt verbosity then logLine level solverTarget message fields else ""
  match event with
  | .dispatched op left right handler =>
    entry .trace "dispatch"
      [("op", op.symbol), ("left", left), ("right", right), ("handler", handlerText handler)]
  | .folded op left right result =>
    entry .debug "folded"
      [("op", op.symbol), ("left", left.toText), ("right", right.toText),
        ("result", result.toText)]
  | .zeroSubstituted op category =>
    entry .debug "divide by zero, substituting zero"
      [("op", op.symbol), ("category", category.name)]

/-! ## Solving -/

def failure (message : String) : Exit := .done 1 "" ("error: " ++ message ++ "\n")

def solveSpec : Spec :=
  { words := 3, hyphens := true, options := ["word-size", "color"], switches := ["json"] }

/-- The value of an option that knows a few only, or what holds without it. -/
def choice? {α : Type} (a : Arguments) (name : String) (usual : α)
    (choices : List (String × α)) : Option α :=
  match a.value? name with
  | none => some usual
  | some text => (choices.find? fun entry => entry.1 == text).map Prod.snd

/-- Diagnostics go to a pipe, so that colour has to be asked for. -/
def solveExit (request : SolveRequest) (json colour : Bool) (verbosity : Nat) : Exit :=
  match request.solve with
  | .error e => failure e.message
  | .ok solved =>
    let e := solved.evaluation
    let log := String.join (e.events.map (eventLine verbosity))
    let code := if e.failed then 1 else 0
    if json then .done code (solved.toJson.pretty ++ "\n") log
    else
      .done code solved.toText (log ++ Diagnostic.renderAll solved.sources colour e.diagnostics)

def solveCommand? (arguments : List String) : Option Exit :=
  (readArguments? solveSpec arguments).bind fun a =>
    (choice? a "word-size" WordSize.w64 [("32", .w32), ("64", .w64)]).bind fun wordSize =>
      (choice? a "color" false [("auto", false), ("always", true), ("never", false)]).bind
        fun colour =>
          match a.words with
          | [left, op, right] =>
            some (solveExit { left, op, right, wordSize } (a.switches.contains "json") colour
              a.verbosity)
          | _ => none

/-! ## Spelling -/

def renderSpec : Spec :=
  { words := 1, hyphens := false
    options := ["array-template", "slice-template", "map-template", "tuple-template",
      "func-template"]
    switches := [] }

def renderExit (request : SpellRequest) (verbosity : Nat) : Exit :=
  match request.run with
  | .error e => failure e.message
  | .ok (type, spelling) =>
    let log :=
      if LogLevel.shownAt verbosity .debug then
        logLine .debug "jane::commands::render" "rendering" [("signature", type.signature)]
      else ""
    .done 0 (spelling ++ "\n") log

def renderCommand? (arguments : List String) : Option Exit :=
  (readArguments? renderSpec arguments).bind fun a =>
    match a.words with
    | [type] =>
      some (renderExit
        { type
          array := a.value? "array-template"
          slice := a.value? "slice-template"
          map := a.value? "map-template"
          tuple := a.value? "tuple-template"
          func := a.value? "func-template" } a.verbosity)
    | _ => none

/-! ## Running -/

/-- A run of the program on its arguments. -/
def run (arguments : List String) : Exit :=
  let exit? :=
    match arguments with
    | "solve" :: rest => solveCommand? rest
    | "render" :: rest => renderCommand? rest
    | _ => none
  exit?.getD .usage

end BinarySolver.Command
