/-
# BinarySolver.Text.Substitution -- one text in place of another

Occurrences are found from left to right and do not overlap; what is put in is not
searched again.
-/

namespace BinarySolver.Text

set_option autoImplicit false

/-- Puts `new` in place of every occurrence of `old`; an empty `old` occurs nowhere. -/
def substitute (old new : List Char) : List Char → List Char
  | [] => []
  | c :: cs =>
    if !old.isEmpty && old.isPrefixOf (c :: cs) then
      new ++ substitute old new (cs.drop (old.length - 1))
    else c :: substitute old new cs
termination_by cs => cs.length
decreasing_by
  · simp only [List.length_drop, List.length_cons]; omega
  · simp

end BinarySolver.Text
