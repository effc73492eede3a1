/-
# BinarySolver.Json -- JSON texts

A JSON value keeps the members of its objects in order.  It is written either
without any space or spread over lines; numbers are given as they are to be written.
-/
import BinarySolver.Constant
import BinarySolver.Text.Hex
import BinarySolver.Text.Joined

namespace BinarySolver

set_option autoImplicit false

inductive Json where
  | null
  | bool (b : Bool)
  | number (text : String)
  | string (text : String)
  | array (items : List Json)
  | object (members : List (String × Json))

namespace Json

/-- One character of a JSON string: only quotes, backslashes and the controls below
the space are escaped. -/
def escapeChar (c : Char) : List Char :=
  if c = '"' then ['\\', '"']
  else if c = '\\' then ['\\', '\\']
  else if c = '\n' then ['\\', 'n']
  else if c = '\r' then ['\\', 'r']
  else if c = '\t' then ['\\', 't']
  else if c = '\x08' then ['\\', 'b']
  else if c = '\x0c' then ['\\', 'f']
  else if c.toNat < 32 then ['\\', 'u'] ++ Text.hexPadded 4 c.toNat
  else [c]

def stringText (text : String) : String :=
  String.ofList ('"' :: text.toList.flatMap escapeChar ++ ['"'])

/-! ## Writing -/

def openBrace : String := "\x7b"

def closeBrace : String := "\x7d"

mutual

/-- On one line, without spaces. -/
def compact : Json → String
  | null => "null"
  | bool b => Constant.boolText b
  | number text => text
  | string text => stringText text
  | array items => "[" ++ Text.joined "," (compactItems items) ++ "]"
  | object members => openBrace ++ Text.joined "," (compactMembers members) ++ closeBrace

def compactItems : List Json → List String
  | [] => []
  | item :: items => compact item :: compactItems items

def compactMembers : List (String × Json) → List String
  | [] => []
  | (name, value) :: members => (stringText name ++ ":" ++ compact value) :: compactMembers members

end

/-- A new line at a depth of indentation, two spaces a level. -/
def newLine (depth : Nat) : String := String.ofList ('\n' :: List.replicate (2 * depth) ' ')

/-- Items on lines of their own between brackets; nothing stands between the brackets
if there are no items. -/
def block (opening closing : String) (depth : Nat) : List String → String
  | [] => opening ++ closing
  | items =>
    opening ++ newLine (depth + 1) ++ Text.joined ("," ++ newLine (depth + 1)) items ++
      newLine depth ++ closing

mutual

/-- Spread over lines, starting at a depth of indentation. -/
def prettyAt (depth : Nat) : Json → String
  | null => "null"
  | bool b => Constant.boolText b
  | number text => text
  | string text => stringText text
  | array items => block "[" "]" depth (prettyItems (depth + 1) items)
  | object members => block openBrace closeBrace depth (prettyMembers (depth + 1) members)

def prettyItems (depth : Nat) : List Json → List String
  | [] => []
  | item :: items => prettyAt depth item :: prettyItems depth items

def prettyMembers (depth : Nat) : List (String × Json) → List String
  | [] => []
  | (name, value) :: members =>
    (stringText name ++ ": " ++ prettyAt depth value) :: prettyMembers depth members

end

def pretty (j : Json) : String := prettyAt 0 j

/-! ## Constants -/

/-- Floats in JSON: positionally from `1e-5` up to below `1e16`, and with a plus sign
in front of an exponent that is not negative. -/
def floatLayout : Numeral.Layout :=
  { plainFrom := -5, plainBelow := 16, plusSign := true, tie := .toEven }

/-- JSON has no number for an infinity. -/
def ofFloat (x : Float) : Json :=
  match Numeral.Binary.ofFloat x with
  | .finite negative m q => number (floatLayout.finite negative m q)
  | _ => null

def ofInt (n : Int) : Json := number (Constant.intText n)

/-- A constant as an object of its kind and its value. -/
def ofConstant : Constant → Json
  | .bool b => object [("kind", string "bool"), ("value", bool b)]
  | .str text => object [("kind", string "str"), ("value", string text)]
  | .float x => object [("kind", string "float"), ("value", ofFloat x)]
  | .int x => object [("kind", string "int"), ("value", ofInt x.toInt)]
  | .uint x => object [("kind", string "uint"), ("value", ofInt x.toNat)]

end Json

end BinarySolver
