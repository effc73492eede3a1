/-
# BinarySolver.Category -- the base categories of types

A category names what a type is before any shape is put around it.  The word
sized integers have no width of their own: `Category.real` reads them at a word
size, and ranks and widths are those of the real category.
-/

namespace BinarySolver

set_option autoImplicit false

/-- The width of the machine word, which is that of `int`, `uint`, `intptr` and `uintptr`. -/
inductive WordSize where
  | w32
  | w64
deriving DecidableEq

namespace WordSize

def bits : WordSize → Nat
  | w32 => 32
  | w64 => 64

def ofBits? : Nat → Option WordSize
  | 32 => some w32
  | 64 => some w64
  | _ => none

end WordSize

inductive Category where
  | void
  | i8 | i16 | i32 | i64
  | u8 | u16 | u32 | u64
  | bool
  | str
  | f32 | f64
  | any
  | id
  | fn
  | nil
  | uint | int
  | map
  | voidptr
  | intptr | uintptr
  | enum
  | struct
  | trait
deriving DecidableEq

namespace Category

/-- Every category once, in the order in which they are listed to a reader. -/
def all : List Category :=
  [void, i8, i16, i32, i64, u8, u16, u32, u64, bool, str, f32, f64, any, id, fn, nil, uint, int,
    map, voidptr, intptr, uintptr, enum, struct, trait]

theorem mem_all (c : Category) : c ∈ all := by cases c <;> decide

/-- The spelling of a category in a type signature. -/
def name : Category → String
  | void => "void"
  | i8 => "i8"
  | i16 => "i16"
  | i32 => "i32"
  | i64 => "i64"
  | u8 => "u8"
  | u16 => "u16"
  | u32 => "u32"
  | u64 => "u64"
  | bool => "bool"
  | str => "str"
  | f32 => "f32"
  | f64 => "f64"
  | any => "any"
  | id => "id"
  | fn => "fn"
  | nil => "nil"
  | uint => "uint"
  | int => "int"
  | map => "map"
  | voidptr => "voidptr"
  | intptr => "intptr"
  | uintptr => "uintptr"
  | enum => "enum"
  | struct => "struct"
  | trait => "trait"

def ofName? (text : String) : Option Category :=
  all.find? fun c => c.name == text

theorem ofName?_name (c : Category) : ofName? c.name = some c := by cases c <;> decide

/-- The spelling of a category in the emitted C++ program. -/
def spelling : Category → String
  | void => "void"
  | bool => "bool"
  | nil => "std::nullptr_t"
  | fn => "func_jnt"
  | c => c.name ++ "_jnt"

/-- The category of fixed width that a word sized integer stands for. -/
def real (word : WordSize) : Category → Category
  | int | intptr =>
    match word with
    | .w32 => i32
    | .w64 => i64
  | uint | uintptr =>
    match word with
    | .w32 => u32
    | .w64 => u64
  | c => c

def isSignedInteger : Category → Bool
  | i8 | i16 | i32 | i64 | int | intptr => true
  | _ => false

def isUnsignedInteger : Category → Bool
  | u8 | u16 | u32 | u64 | uint | uintptr => true
  | _ => false

def isInteger (c : Category) : Bool := c.isSignedInteger || c.isUnsignedInteger

def isFloat : Category → Bool
  | f32 | f64 => true
  | _ => false

def isNumeric (c : Category) : Bool := c.isInteger || c.isFloat

/-- Numbers that can be negative: the signed integers and the floats. -/
def isSignedNumeric (c : Category) : Bool := c.isSignedInteger || c.isFloat

/-- The number of bits of a numeric category, and none for any other. -/
def bitWidth? (word : WordSize) (c : Category) : Option Nat :=
  match c.real word with
  | i8 | u8 => some 8
  | i16 | u16 => some 16
  | i32 | u32 | f32 => some 32
  | i64 | u64 | f64 => some 64
  | _ => none

/-- `c.outranks word d`: an operation on `c` and `d` has type `c`.  Within one
signedness the wider integer wins, a float wins over every integer and the wider
float over the narrower.  Signed and unsigned integers do not outrank each other. -/
def outranks (word : WordSize) (c d : Category) : Bool :=
  match c.real word, d.real word with
  | i16, i8 => true
  | i32, i8 | i32, i16 => true
  | i64, i8 | i64, i16 | i64, i32 => true
  | u16, u8 => true
  | u32, u8 | u32, u16 => true
  | u64, u8 | u64, u16 | u64, u32 => true
  | f32, e => e.isInteger
  | f64, e => e.isInteger || e == f32
  | _, _ => false

/-- The signed integer category of a width. -/
def signedOfBits? : Nat → Option Category
  | 8 => some i8
  | 16 => some i16
  | 32 => some i32
  | 64 => some i64
  | _ => none

/-- The unsigned integer category of a width. -/
def unsignedOfBits? : Nat → Option Category
  | 8 => some u8
  | 16 => some u16
  | 32 => some u32
  | 64 => some u64
  | _ => none

/-- The float category of a width. -/
def floatOfBits? : Nat → Option Category
  | 32 => some f32
  | 64 => some f64
  | _ => none

end Category

end BinarySolver
