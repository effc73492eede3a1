/-
# BinarySolver.TypeExpr -- types read from text

A type expression is a name, a shape marker before a type, a map `[key:value]` or a
tuple `(a, b)`; blanks may stand around every type.  The scalar categories are known
by name, any other identifier names a structure.  Separators count only outside of
brackets.
-/
import BinarySolver.Descriptor
import BinarySolver.Text.Blank

namespace BinarySolver

set_option autoImplicit false

/-- Why a text is no operand. -/
inductive OperandError where
  | emptyType
  | invalidType (text : String)
  | invalidValue (type value : String)
  /-- The type has no constants that could be written. -/
  | notConstant (type : String)
deriving DecidableEq

def OperandError.message : OperandError → String
  | emptyType => "empty type expression"
  | invalidType text => "invalid type expression `" ++ text ++ "`"
  | invalidValue type value => "`" ++ value ++ "` is not a valid `" ++ type ++ "` value"
  | notConstant type => "type `" ++ type ++ "` has no constant form"

namespace TypeExpr

/-! ## Splitting -/

/-- Puts a character in front of the first part. -/
def consHead (c : Char) : List (List Char) → List (List Char)
  | [] => [[c]]
  | part :: parts => (c :: part) :: parts

/-- The parts between separators that stand in no bracket; `depth` brackets are open.
A bracket that closes nothing is passed over. -/
def splitFrom (separator : Char) : Nat → List Char → List (List Char)
  | _, [] => [[]]
  | depth, c :: cs =>
    if c = '[' ∨ c = '(' then consHead c (splitFrom separator (depth + 1) cs)
    else if c = ']' ∨ c = ')' then consHead c (splitFrom separator (depth - 1) cs)
    else if c = separator ∧ depth = 0 then [] :: splitFrom separator depth cs
    else consHead c (splitFrom separator depth cs)

def splitTopLevel (separator : Char) (text : List Char) : List (List Char) :=
  splitFrom separator 0 text

theorem length_le_of_mem_consHead {c : Char} {n : Nat} {parts : List (List Char)}
    (h : ∀ part ∈ parts, part.length ≤ n) :
    ∀ part ∈ consHead c parts, part.length ≤ n + 1 := by
  intro part hp
  cases parts with
  | nil => simp only [consHead, List.mem_singleton] at hp; subst hp; simp
  | cons q qs =>
    rcases List.mem_cons.1 hp with rfl | hp
    · simpa using h q (List.mem_cons_self ..)
    · exact Nat.le_succ_of_le (h part (List.mem_cons_of_mem _ hp))

theorem length_le_of_mem_splitFrom (separator : Char) (depth : Nat) (text : List Char) :
    ∀ part ∈ splitFrom separator depth text, part.length ≤ text.length := by
  fun_induction splitFrom separator depth text with
  | case1 => simp
  | case2 depth c cs h ih => exact length_le_of_mem_consHead ih
  | case3 depth c cs h h' ih => exact length_le_of_mem_consHead ih
  | case4 depth c cs h h' h'' ih =>
    intro part hp
    rcases List.mem_cons.1 hp with rfl | hp
    · simp
    · exact Nat.le_succ_of_le (ih part hp)
  | case5 depth c cs h h' h'' ih => exact length_le_of_mem_consHead ih

/-- What stands before a closing character at the end. -/
def beforeLast? (closing : Char) (text : List Char) : Option (List Char) :=
  if text.getLast? = some closing then some text.dropLast else none

theorem length_le_of_beforeLast? {closing : Char} {text inner : List Char}
    (h : beforeLast? closing text = some inner) : inner.length ≤ text.length := by
  unfold beforeLast? at h
  split at h
  · simp only [Option.some.injEq] at h
    subst h
    simp
  · simp at h

/-! ## Names -/

def isNameStart (c : Char) : Bool := c.isAlpha || c == '_'

def isNamePart (c : Char) : Bool := isNameStart c || c.isDigit

/-- An ASCII identifier. -/
def isName : List Char → Bool
  | [] => false
  | c :: cs => isNameStart c && cs.all isNamePart

/-- The type of a name.  Categories that need more than a name are not types. -/
def readName (text : List Char) : Except OperandError Descriptor :=
  let name := String.ofList text
  if !isName text then .error (.invalidType name)
  else
    match Category.ofName? name with
    | none => .ok (.named .struct name)
    | some .fn => .ok (.function [] .void)
    | some .struct | some .enum | some .trait | some .map | some .id => .error (.invalidType name)
    | some category => .ok (.scalar category)

/-! ## Types -/

/-- Reads a type; of several wrong parts the first is told. -/
def read (text : List Char) : Except OperandError Descriptor :=
  match _h : Text.trim text with
  | [] => .error .emptyType
  | '*' :: rest => (read rest).map .pointerTo
  | '[' :: ':' :: ']' :: rest => (read rest).map .sliceOf
  | '[' :: ']' :: rest => (read rest).map .arrayOf
  | '[' :: rest =>
    match _hi : beforeLast? ']' rest with
    | none => readName ('[' :: rest)
    | some inner =>
      match _hs : splitTopLevel ':' inner with
      | [key, value] =>
        match read key, read value with
        | .error e, _ => .error e
        | .ok _, .error e => .error e
        | .ok k, .ok v => .ok (.map k v)
      | _ => .error (.invalidType (String.ofList ('[' :: rest)))
  | '(' :: rest =>
    match _hi : beforeLast? ')' rest with
    | none => readName ('(' :: rest)
    | some inner =>
      let elements : Except OperandError (List Descriptor) :=
        (splitTopLevel ',' inner).attach.mapM fun part => read part.1
      elements.map .tuple
  | name => readName name
termination_by text.length
decreasing_by
  all_goals
    have ht := Text.length_trim_le text
    rw [_h] at ht
    simp only [List.length_cons] at ht
  · omega
  · omega
  · omega
  · have hi := length_le_of_beforeLast? _hi
    have hs := length_le_of_mem_splitFrom ':' 0 inner key (by
      show key ∈ splitTopLevel ':' inner
      simp [_hs])
    omega
  · have hi := length_le_of_beforeLast? _hi
    have hs := length_le_of_mem_splitFrom ':' 0 inner value (by
      show value ∈ splitTopLevel ':' inner
      simp [_hs])
    omega
  · have hi := length_le_of_beforeLast? _hi
    have hs := length_le_of_mem_splitFrom ',' 0 inner part.1 part.2
    omega

end TypeExpr

end BinarySolver
