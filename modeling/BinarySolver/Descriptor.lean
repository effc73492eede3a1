/-
# BinarySolver.Descriptor -- what a type is

A descriptor pairs a base category with the signature of the type, its canonical
text.  Pointers, arrays and slices are markers in front of the signature: `*[]i32`
is a pointer to an array of `i32` and has the category `i32`.  What a type is made
of beyond that (key and value, arguments, parameters) is its payload, which stays
with the innermost type whatever markers are put in front.
-/
import BinarySolver.Category
import BinarySolver.Source
import BinarySolver.Text.Joined

namespace BinarySolver

set_option autoImplicit false

/-- A parameter of a function type; `δ` is the type of its type. -/
structure Param (δ : Type) where
  name : String
  type : δ
  isConst : Bool
  variadic : Bool

/-- What a type is made of; `δ` is the type of its parts. -/
inductive Payload (δ : Type) where
  | none
  | map (key value : δ)
  | generics (arguments : List δ)
  | enum (underlying : δ)
  | func (params : List (Param δ)) (ret : δ)
  | tuple (elements : List δ)

structure Descriptor where
  category : Category
  signature : String
  /-- The type that this one is another name for. -/
  aliasOf : Option Descriptor
  payload : Payload Descriptor
  /-- Several values at once: a tuple. -/
  multi : Bool
  span : Span

namespace Descriptor

/-! ## Constructors -/

def named (category : Category) (name : String) : Descriptor :=
  { category, signature := name, aliasOf := none, payload := .none, multi := false,
    span := .detached }

def scalar (category : Category) : Descriptor := named category category.name

def void : Descriptor := scalar .void

def bool : Descriptor := scalar .bool

def nil : Descriptor := scalar .nil

/-- Puts a marker in front of a signature. -/
def marked (marker : String) (d : Descriptor) : Descriptor :=
  { d with signature := marker ++ d.signature }

def pointerTo (d : Descriptor) : Descriptor := d.marked "*"

def arrayOf (d : Descriptor) : Descriptor := d.marked "[]"

def sliceOf (d : Descriptor) : Descriptor := d.marked "[:]"

def map (key value : Descriptor) : Descriptor :=
  { named .map ("[" ++ key.signature ++ ":" ++ value.signature ++ "]") with
    payload := .map key value }

/-- The signatures of several types, as they stand in the signature of a tuple. -/
def signatureList (ds : List Descriptor) : String :=
  Text.joined ", " (ds.map Descriptor.signature)

def tuple (elements : List Descriptor) : Descriptor :=
  { named .void ("(" ++ signatureList elements ++ ")") with
    payload := .tuple elements, multi := true }

def enumeration (name : String) (underlying : Descriptor) : Descriptor :=
  { named .enum name with payload := .enum underlying }

def aliasTo (name : String) (target : Descriptor) : Descriptor :=
  { named .id name with aliasOf := some target }

/-- Arguments are added to the signature unless there are none. -/
def withGenerics (d : Descriptor) (arguments : List Descriptor) : Descriptor :=
  { d with
    signature :=
      if arguments.isEmpty then d.signature
      else d.signature ++ "[" ++ signatureList arguments ++ "]"
    payload := .generics arguments }

def withSpan (d : Descriptor) (span : Span) : Descriptor := { d with span }

/-! ## Markers -/

/-- The number of pointer markers in front. -/
def pointers (d : Descriptor) : Nat := (d.signature.toList.takeWhile (· == '*')).length

def stripPointers (d : Descriptor) : Descriptor :=
  { d with signature := String.ofList (d.signature.toList.dropWhile (· == '*')) }

/-- What is left of a text behind a marker in front of it. -/
def behind? (marker text : List Char) : Option (List Char) :=
  if marker.isPrefixOf text then some (text.drop marker.length) else none

def isArray (d : Descriptor) : Bool := ['[', ']'].isPrefixOf d.signature.toList

def isSlice (d : Descriptor) : Bool := ['[', ':', ']'].isPrefixOf d.signature.toList

/-- The type of the elements of an array or a slice. -/
def element? (d : Descriptor) : Option Descriptor :=
  let text := d.signature.toList
  ((behind? ['[', ':', ']'] text).or (behind? ['[', ']'] text)).map fun rest =>
    { d with signature := String.ofList rest }

def startsWith (d : Descriptor) (c : Char) : Bool := d.signature.toList.head? == some c

/-- Neither a tuple nor behind a marker or a bracket. -/
def isPlain (d : Descriptor) : Bool := !d.multi && !d.startsWith '*' && !d.startsWith '['

/-! ## Predicates -/

/-- A plain type of one category. -/
def isA (d : Descriptor) (c : Category) : Bool := d.category == c && d.isPlain

def isVoid (d : Descriptor) : Bool := d.isA .void

def isVoidptr (d : Descriptor) : Bool := d.isA .voidptr

def isNil (d : Descriptor) : Bool := d.isA .nil

def isAny (d : Descriptor) : Bool := d.isA .any

def isBool (d : Descriptor) : Bool := d.isA .bool

def isStr (d : Descriptor) : Bool := d.isA .str

def isStruct (d : Descriptor) : Bool := d.isA .struct

def isEnum (d : Descriptor) : Bool := d.isA .enum

def isTrait (d : Descriptor) : Bool := d.isA .trait

def isFunc (d : Descriptor) : Bool := d.isA .fn

/-- Something with a pointer marker in front, or a plain `voidptr`. -/
def isPointer (d : Descriptor) : Bool := d.startsWith '*' || d.isVoidptr

def isMap (d : Descriptor) : Bool :=
  d.category == .map && d.startsWith '[' && !d.isArray && !d.isSlice

def isTuple (d : Descriptor) : Bool := d.multi

def isFloat (d : Descriptor) : Bool := d.isPlain && d.category.isFloat

def isUnsignedInteger (d : Descriptor) : Bool := d.isPlain && d.category.isUnsignedInteger

def isSignedInteger (d : Descriptor) : Bool := d.isPlain && d.category.isSignedInteger

def isInteger (d : Descriptor) : Bool := d.isPlain && d.category.isInteger

def isSignedNumeric (d : Descriptor) : Bool := d.isPlain && d.category.isSignedNumeric

def isNumeric (d : Descriptor) : Bool := d.isPlain && d.category.isNumeric

/-! ## Parts -/

/-- The type behind an enum, which only a plain enum shows. -/
def underlying? (d : Descriptor) : Option Descriptor :=
  match d.payload with
  | .enum underlying => if d.isEnum then some underlying else none
  | _ => none

def generics? (d : Descriptor) : Option (List Descriptor) :=
  match d.payload with
  | .generics arguments => some arguments
  | _ => none

def params? (d : Descriptor) : Option (List (Param Descriptor)) :=
  match d.payload with
  | .func params _ => some params
  | _ => none

/-- The elements of a tuple, whatever stands in front of it. -/
def elements? (d : Descriptor) : Option (List Descriptor) :=
  match d.payload with
  | .tuple elements => if d.multi then some elements else none
  | _ => none

/-! ## Functions -/

/-- A parameter as it stands in the signature of its function. -/
def paramSignature (p : Param Descriptor) : String :=
  (if p.isConst then "const " else "") ++ (if p.variadic then "..." else "") ++ p.type.signature

/-- The signature of a function leaves out a plain `void` result. -/
def functionSignature (params : List (Param Descriptor)) (ret : Descriptor) : String :=
  "fn(" ++ Text.joined ", " (params.map paramSignature) ++ ")" ++
    (if ret.isVoid then "" else " " ++ ret.signature)

def function (params : List (Param Descriptor)) (ret : Descriptor) : Descriptor :=
  { named .fn (functionSignature params ret) with payload := .func params ret }

end Descriptor

end BinarySolver
