/-
# BinarySolver.Text.Checksum -- a 32 bit cyclic redundancy check

The check of IEEE 802.3 in its reflected form, over the UTF-8 octets of a text.
-/

namespace BinarySolver.Text

set_option autoImplicit false

/-- The reflected generator polynomial. -/
def polynomial : UInt32 := 0xEDB88320

/-- One bit of division by the polynomial. -/
def shiftRemainder (r : UInt32) : UInt32 :=
  if r &&& 1 = 1 then (r >>> 1) ^^^ polynomial else r >>> 1

/-- One octet of division by the polynomial. -/
def absorbOctet (r : UInt32) (octet : UInt8) : UInt32 :=
  (List.range 8).foldl (fun r _ => shiftRemainder r) (r ^^^ octet.toUInt32)

/-- The remainder starts with all bits set and is inverted at the end. -/
def checksum (text : String) : UInt32 :=
  text.toUTF8.toList.foldl absorbOctet 0xFFFFFFFF ^^^ 0xFFFFFFFF

end BinarySolver.Text
