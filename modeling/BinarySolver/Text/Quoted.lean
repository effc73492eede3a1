/-
# BinarySolver.Text.Quoted -- a text between double quotes

The quoted form shows every text on one line: a quote, a backslash and the usual
controls have short escapes, every other character that would not show, or would
join the one before it, is written by its code point.
-/
import BinarySolver.Text.Hex
import BinarySolver.Unicode.Combining
import BinarySolver.Unicode.Unprintable

namespace BinarySolver.Text

set_option autoImplicit false

/-- One character of the quoted form: `\u` with the code point in braces where nothing
shorter shows it. -/
def quoteChar (c : Char) : List Char :=
  if c = '"' then ['\\', '"']
  else if c = '\\' then ['\\', '\\']
  else if c = '\n' then ['\\', 'n']
  else if c = '\r' then ['\\', 'r']
  else if c = '\t' then ['\\', 't']
  else if c = '\x00' then ['\\', '0']
  else if Unicode.isCombining c || Unicode.isUnprintable c then
    ['\\', 'u', '\x7b'] ++ hex c.toNat ++ ['\x7d']
  else [c]

def quoted (text : String) : String :=
  String.ofList ('"' :: text.toList.flatMap quoteChar ++ ['"'])

end BinarySolver.Text
