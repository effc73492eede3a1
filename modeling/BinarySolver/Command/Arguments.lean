/-
# BinarySolver.Command.Arguments -- the words of a command line

A command takes words in order, options with a value, switches, and `-v`, which
counts.  Where a command lets its words begin with a hyphen, what names no option is
a word as long as one is awaited.  Behind `--` every argument is a word.
-/

namespace BinarySolver.Command

set_option autoImplicit false

/-- What a command takes. -/
structure Spec where
  /-- How many words are needed; no more are taken. -/
  words : Nat
  /-- Words may begin with a hyphen. -/
  hyphens : Bool
  /-- The options with a value, by their long names. -/
  options : List String
  /-- The options without one. -/
  switches : List String

/-- What was given.  Each option and switch is given once at most. -/
structure Arguments where
  words : List String
  values : List (String × String)
  switches : List String
  verbosity : Nat

namespace Arguments

def empty : Arguments := { words := [], values := [], switches := [], verbosity := 0 }

def value? (a : Arguments) (name : String) : Option String :=
  (a.values.find? fun entry => entry.1 == name).map Prod.snd

def addWord? (spec : Spec) (a : Arguments) (word : String) : Option Arguments :=
  if a.words.length < spec.words then some { a with words := a.words ++ [word] } else none

def addValue? (a : Arguments) (name value : String) : Option Arguments :=
  if (a.value? name).isSome then none
  else some { a with values := a.values ++ [(name, value)] }

def addSwitch? (a : Arguments) (name : String) : Option Arguments :=
  if a.switches.contains name then none
  else some { a with switches := a.switches ++ [name] }

/-- The next word may begin with a hyphen. -/
def awaitsHyphen (spec : Spec) (a : Arguments) : Bool :=
  spec.hyphens && decide (a.words.length < spec.words)

end Arguments

/-- What an argument is by its look. -/
inductive Token where
  /-- `--` alone. -/
  | separator
  /-- `--name`, and what stands behind an equals sign. -/
  | long (name : String) (value : Option String)
  /-- A hyphen and letters. -/
  | short (letters : List Char)
  | word

def Token.ofText (text : String) : Token :=
  match text.toList with
  | ['-', '-'] => separator
  | '-' :: '-' :: rest =>
    long (String.ofList (rest.takeWhile (· != '=')))
      (match rest.dropWhile (· != '=') with
        | _ :: value => some (String.ofList value)
        | [] => none)
  | '-' :: c :: rest => short (c :: rest)
  | _ => word

/-- What reading has come to. -/
structure Reading where
  given : Arguments
  /-- The option whose value comes next. -/
  pending : Option String
  /-- Everything is a word from here on. -/
  onlyWords : Bool

namespace Reading

def start : Reading := { given := .empty, pending := none, onlyWords := false }

/-- An argument that is no option: the value of the pending option, else a word. -/
def plain? (spec : Spec) (r : Reading) (text : String) : Option Reading :=
  match r.pending with
  | some name => (r.given.addValue? name text).map fun given => { r with given, pending := none }
  | none => (r.given.addWord? spec text).map fun given => { r with given }

/-- An argument that looks like an option and is none. -/
def unknown? (spec : Spec) (r : Reading) (text : String) : Option Reading :=
  if r.given.awaitsHyphen spec then r.plain? spec text else none

/-- An option cannot come where a value is awaited. -/
def option? (r : Reading) (next : Option Reading) : Option Reading :=
  if r.pending.isSome then none else next

/-- An option by its long name. -/
def long? (spec : Spec) (r : Reading) (text name : String) (value : Option String) :
    Option Reading :=
  if spec.options.contains name then
    r.option? <|
      match value with
      | some value => (r.given.addValue? name value).map fun given => { r with given }
      | none => if (r.given.value? name).isSome then none else some { r with pending := some name }
  else if name == "verbose" then
    r.option? <|
      if value.isSome then none
      else some { r with given := { r.given with verbosity := r.given.verbosity + 1 } }
  else if spec.switches.contains name then
    r.option? <|
      if value.isSome then none
      else (r.given.addSwitch? name).map fun given => { r with given }
  else r.unknown? spec text

/-- Letters behind one hyphen: `v`, as often as it stands there. -/
def short? (spec : Spec) (r : Reading) (text : String) (letters : List Char) : Option Reading :=
  if letters.all (· == 'v') then
    r.option? <|
      some { r with given := { r.given with verbosity := r.given.verbosity + letters.length } }
  else r.unknown? spec text

/-- One argument further; none if the command does not take it. -/
def step? (spec : Spec) (r : Reading) (text : String) : Option Reading :=
  if r.onlyWords then
    if r.pending.isSome then none else r.plain? spec text
  else
    match Token.ofText text with
    | .separator => some { r with onlyWords := true }
    | .long name value => r.long? spec text name value
    | .short letters => r.short? spec text letters
    | .word => r.plain? spec text

def finish? (spec : Spec) (r : Reading) : Option Arguments :=
  if r.pending.isSome || r.given.words.length != spec.words then none else some r.given

end Reading

/-- Reads the arguments of a command; none if it is not used as it should be. -/
def readArguments? (spec : Spec) (arguments : List String) : Option Arguments :=
  (arguments.foldlM (Reading.step? spec) .start).bind (Reading.finish? spec)

end BinarySolver.Command
