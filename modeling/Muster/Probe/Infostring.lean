import Muster.Text.Blank

/-!
# Infostrings

A report of key and value pairs between backslashes.  Two layouts occur.  Usually keys and values
alternate, each in a segment of its own; some servers put a key and its value into one segment with
blanks between them.  The second layout is recognised by a blank in a place where the first has a
key.

Keys compare without regard to the case of the letters A to Z, and the last value given for a key
counts.
-/

namespace Muster

/-- The pairs of a report, in the order in which they stand, with keys in lower case. -/
structure Infostring where
  fields : List (List Char × List Char)
  deriving DecidableEq, Repr

namespace Infostring

/-- A character that may surround a report. -/
def isSurrounding (char : Char) : Bool :=
  char == '\n' || char == '\r' || char == '\x00'

def segments (body : List Char) : List (List Char) :=
  let body := Text.trimBoth isSurrounding body
  Text.splitOnChar '\\' (match body with | '\\' :: rest => rest | _ => body)

/-- No key position holds a blank: keys and values alternate. -/
def alternates : List (List Char) → Bool
  | [] => true
  | [key] => !key.any Text.isBlank
  | key :: _ :: rest => !key.any Text.isBlank && alternates rest

/-- Pairs each key with the segment behind it; a last key without one has the empty value. -/
def alternatingPairs : List (List Char) → List (List Char × List Char)
  | [] => []
  | [key] => [(key, [])]
  | key :: value :: rest => (key, value) :: alternatingPairs rest

/-- Cuts a segment that holds both key and value. -/
def spacedPair (segment : List Char) : List Char × List Char :=
  match Text.cutAtBlank? (Text.trimStart segment) with
  | some (key, _, value) => (key, Text.trimStart value)
  | none => (Text.trimStart segment, [])

/-- The pairs of the segments, in whichever layout they are. -/
def pairs (segments : List (List Char)) : List (List Char × List Char) :=
  if alternates segments then alternatingPairs segments else segments.map spacedPair

/-- Reads a report.  Pairs with an empty key are dropped. -/
def ofText (body : String) : Infostring :=
  ⟨((pairs (segments body.toList)).filter fun pair => !pair.1.isEmpty).map fun pair =>
    (pair.1.map Char.toLower, pair.2)⟩

/-- The last value given for a key. -/
def lastValue? (key : List Char) : List (List Char × List Char) → Option (List Char)
  | [] => none
  | pair :: rest => (lastValue? key rest).or (if pair.1 = key then some pair.2 else none)

def get? (info : Infostring) (key : String) : Option String :=
  (lastValue? key.toList info.fields).map String.ofList

/-- The value of the first of several keys that has one, or the empty text. -/
def textOf (info : Infostring) (keys : List String) : String :=
  (keys.findSome? info.get?).getD ""

end Infostring

end Muster
