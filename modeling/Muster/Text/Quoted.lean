import Muster.Text.CharacterRanges

/-!
# Quoted characters

The form in which a single character appears in a message: between apostrophes, with an escape for
the apostrophe, the backslash, the common control characters and every character that would not
show.
-/

namespace Muster.Text.Quoted

/-- The digits of a number in base sixteen, in lower case and without leading zeros. -/
def hexDigits (value : Nat) : String :=
  String.ofList (Nat.toDigits 16 value)

def codeEscape (char : Char) : String :=
  "\\u\x7b" ++ hexDigits char.toNat ++ "\x7d"

/-- A character as it is written between apostrophes. -/
def escape (char : Char) : String :=
  if char = '\x00' then "\\0"
  else if char = '\t' then "\\t"
  else if char = '\r' then "\\r"
  else if char = '\n' then "\\n"
  else if char = '\\' then "\\\\"
  else if char = '\'' then "\\'"
  else if isExtending char || isInvisible char then codeEscape char
  else String.singleton char

def quote (char : Char) : String :=
  "'" ++ escape char ++ "'"

end Muster.Text.Quoted
