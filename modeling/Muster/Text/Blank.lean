/-!
# Blank characters

The characters with the Unicode property `White_Space`, and the two ways text is trimmed and cut
at them.
-/

namespace Muster.Text

/-- A character with the Unicode property `White_Space`. -/
def isBlank (char : Char) : Bool :=
  let code := char.toNat
  (0x09 ≤ code && code ≤ 0x0D) || code == 0x20 || code == 0x85 || code == 0xA0 ||
    code == 0x1680 || (0x2000 ≤ code && code ≤ 0x200A) || code == 0x2028 || code == 0x2029 ||
    code == 0x202F || code == 0x205F || code == 0x3000

def trimStart (text : List Char) : List Char :=
  text.dropWhile isBlank

/-- The text without the leading and trailing characters that satisfy `strip`. -/
def trimBoth (strip : Char → Bool) (text : List Char) : List Char :=
  ((text.dropWhile strip).reverse.dropWhile strip).reverse

/-- The text without its leading and trailing blanks. -/
def trim (text : List Char) : List Char :=
  trimBoth isBlank text

/-- Cuts a text at its first blank, which belongs to neither part. -/
def cutAtBlank? : List Char → Option (List Char × Char × List Char)
  | [] => none
  | char :: rest =>
    if isBlank char then some ([], char, rest)
    else (cutAtBlank? rest).map fun (before, blank, after) => (char :: before, blank, after)

/-- Cuts a text into the segments between the occurrences of `mark`; there is always one segment
more than there are marks. -/
def splitOnChar (mark : Char) : List Char → List (List Char)
  | [] => [[]]
  | char :: rest =>
    if char = mark then [] :: splitOnChar mark rest
    else
      match splitOnChar mark rest with
      | [] => [[char]]
      | segment :: segments => (char :: segment) :: segments

end Muster.Text
