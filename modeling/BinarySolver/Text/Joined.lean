/-
# BinarySolver.Text.Joined -- several texts with a separator between them
-/

namespace BinarySolver.Text

set_option autoImplicit false

def joined (separator : String) : List String → String
  | [] => ""
  | [text] => text
  | text :: next :: texts => text ++ separator ++ joined separator (next :: texts)

end BinarySolver.Text
