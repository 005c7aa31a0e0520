/-!
# Colour codes

Names of players and servers carry colour escapes: a caret followed by a letter or a digit.
-/

namespace Muster.Text

/-- The text without its colour escapes.  A caret that begins none is kept, also one that stands
directly before an escape. -/
def stripColors : List Char → List Char
  | [] => []
  | [char] => [char]
  | first :: second :: rest =>
    if first = '^' ∧ second.isAlphanum then stripColors rest
    else first :: stripColors (second :: rest)

end Muster.Text
