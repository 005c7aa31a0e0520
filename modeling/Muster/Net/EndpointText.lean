import Muster.Net.Endpoint
import Muster.Text.Quoted
import Muster.Text.Numeral

/-!
# The text of endpoints

Addresses of four bytes are written with dots, addresses of eight groups with colons.  Of the long
form the first longest run of two or more zero groups is written as a double colon, and an address
that embeds a short one ends in that one's dotted form.  An endpoint puts the long form in brackets,
and before the closing one a percent sign and the zone, unless the zone is zero.

The readers take a text from its front and return what is left of it.
-/

namespace Muster

namespace Ip

/-- The dotted form. -/
def dotted (a b c d : Nat) : String :=
  toString a ++ "." ++ toString b ++ "." ++ toString c ++ "." ++ toString d

def colonSeparated (groups : List Nat) : String :=
  String.intercalate ":" (groups.map Text.Quoted.hexDigits)

/-- The number of zeros at the front of a list. -/
def leadingZeros (groups : List Nat) : Nat :=
  (groups.takeWhile (· == 0)).length

/-- The start and the length of the first longest run of zeros, with `index` groups before. -/
def longestZeros (index : Nat) : List Nat → Nat × Nat
  | [] => (index, 0)
  | group :: rest =>
    let here := leadingZeros (group :: rest)
    let later := longestZeros (index + 1) rest
    if later.2 ≤ here then (index, here) else later

/-- The colon form of eight groups. -/
def compressed (groups : List Nat) : String :=
  let (start, length) := longestZeros 0 groups
  if length ≤ 1 then colonSeparated groups
  else
    colonSeparated (groups.take start) ++ "::" ++ colonSeparated (groups.drop (start + length))

def text : Ip → String
  | v4 a b c d => dotted a.toNat b.toNat c.toNat d.toNat
  | ip@(v6 g₀ g₁ g₂ g₃ g₄ g₅ g₆ g₇) =>
    if g₀ = 0 ∧ g₁ = 0 ∧ g₂ = 0 ∧ g₃ = 0 ∧ g₄ = 0 ∧ g₅ = 0xFFFF then
      "::ffff:" ++ dotted (g₆.toNat / 256) (g₆.toNat % 256) (g₇.toNat / 256) (g₇.toNat % 256)
    else compressed ip.groups

/-- The value of a digit in base sixteen. -/
def hexDigit? (char : Char) : Option Nat :=
  if '0' ≤ char ∧ char ≤ '9' then some (char.toNat - '0'.toNat)
  else if 'a' ≤ char ∧ char ≤ 'f' then some (char.toNat - 'a'.toNat + 10)
  else if 'A' ≤ char ∧ char ≤ 'F' then some (char.toNat - 'A'.toNat + 10)
  else none

/-- The value of digits in the given base, onto the value of the digits before them. -/
def valueFrom (base value : Nat) : List Char → Nat
  | [] => value
  | char :: rest => valueFrom base (base * value + (hexDigit? char).getD 0) rest

def isDigit (base : Nat) (char : Char) : Bool :=
  (hexDigit? char).any (· < base)

/-- The number written by all the digits at the front of a text.  There is at least one digit and,
where `maxDigits` is given, no more than it allows; the value is at most `limit`. -/
def number? (base : Nat) (maxDigits : Option Nat) (limit : Nat) (text : List Char) :
    Option (Nat × List Char) :=
  let digits := text.takeWhile (isDigit base)
  let value := valueFrom base 0 digits
  if digits.isEmpty || maxDigits.any (· < digits.length) || limit < value then none
  else some (value, text.dropWhile (isDigit base))

/-- One byte of the dotted form; a leading zero stands alone. -/
def byte? (text : List Char) : Option (Nat × List Char) :=
  match text with
  | '0' :: second :: _ => if isDigit 10 second then none else number? 10 (some 3) 255 text
  | _ => number? 10 (some 3) 255 text

/-- The given character at the front of a text. -/
def char? (expected : Char) : List Char → Option (List Char)
  | [] => none
  | char :: rest => if char = expected then some rest else none

def dotted? (text : List Char) : Option ((Nat × Nat × Nat × Nat) × List Char) := do
  let (a, text) ← byte? text
  let (b, text) ← byte? (← char? '.' text)
  let (c, text) ← byte? (← char? '.' text)
  let (d, text) ← byte? (← char? '.' text)
  return ((a, b, c, d), text)

/-- The text after the colon that precedes every group but the first. -/
def afterColon? (isFirst : Bool) (text : List Char) : Option (List Char) :=
  if isFirst then some text else char? ':' text

/-- Reads at most `room` groups between colons, the last two of which may be written as a dotted
address.  Returns the groups, whether they end in a dotted address, and what is left. -/
def readGroups (isFirst : Bool) : Nat → List Char → List Nat × Bool × List Char
  | 0, text => ([], false, text)
  | room + 1, text =>
    match (if room = 0 then none else (afterColon? isFirst text).bind dotted?) with
    | some ((a, b, c, d), rest) => ([a * 256 + b, c * 256 + d], true, rest)
    | none =>
      match (afterColon? isFirst text).bind (number? 16 (some 4) 0xFFFF) with
      | none => ([], false, text)
      | some (group, rest) =>
        let (groups, embedded, rest) := readGroups false room rest
        (group :: groups, embedded, rest)

def ofGroups? : List Nat → Option Ip
  | [g₀, g₁, g₂, g₃, g₄, g₅, g₆, g₇] =>
    some (.v6 g₀.toUInt16 g₁.toUInt16 g₂.toUInt16 g₃.toUInt16 g₄.toUInt16 g₅.toUInt16
      g₆.toUInt16 g₇.toUInt16)
  | _ => none

def readV4? (text : List Char) : Option (Ip × List Char) :=
  (dotted? text).map fun ((a, b, c, d), rest) =>
    (.v4 a.toUInt8 b.toUInt8 c.toUInt8 d.toUInt8, rest)

/-- Reads the long form: eight groups, or fewer around a double colon, which stands for at least
one zero group and follows no dotted address. -/
def readV6? (text : List Char) : Option (Ip × List Char) :=
  let (front, embedded, rest) := readGroups true 8 text
  if front.length = 8 then (ofGroups? front).map (·, rest)
  else if embedded then none
  else do
    let rest ← char? ':' (← char? ':' rest)
    let (back, _, rest) := readGroups true (7 - front.length) rest
    let zeros := List.replicate (8 - front.length - back.length) 0
    (ofGroups? (front ++ zeros ++ back)).map (·, rest)

/-- A reader applied to a whole text. -/
def whole? {α : Type} (read : List Char → Option (α × List Char)) (text : List Char) : Option α :=
  match read text with
  | some (value, []) => some value
  | _ => none

/-- The address that a text writes in either form. -/
def ofText? (text : String) : Option Ip :=
  (whole? readV4? text.toList).orElse fun _ => whole? readV6? text.toList

end Ip

namespace Endpoint

/-- The text of an endpoint.  The long form stands in brackets, with its zone where it has one. -/
def text (endpoint : Endpoint) : String :=
  let port := ":" ++ toString endpoint.port.toNat
  match endpoint.ip with
  | ip@(.v4 ..) => ip.text ++ port
  | ip@(.v6 ..) =>
    let zone := if endpoint.zone = 0 then "" else "%" ++ toString endpoint.zone.toNat
    "[" ++ ip.text ++ zone ++ "]" ++ port

def readPort? (text : List Char) : Option (UInt16 × List Char) := do
  let (port, rest) ← Ip.number? 10 none 0xFFFF (← Ip.char? ':' text)
  return (port.toUInt16, rest)

/-- A zone, where one is named. -/
def readZone (text : List Char) : UInt32 × List Char :=
  match (Ip.char? '%' text).bind (Ip.number? 10 none 0xFFFFFFFF) with
  | some (zone, rest) => (zone.toUInt32, rest)
  | none => (0, text)

def readV4? (text : List Char) : Option (Endpoint × List Char) := do
  let (ip, text) ← Ip.readV4? text
  let (port, rest) ← readPort? text
  return (.ofIp ip port, rest)

/-- Reads the long form, in brackets. -/
def readV6? (text : List Char) : Option (Endpoint × List Char) := do
  let (ip, text) ← Ip.readV6? (← Ip.char? '[' text)
  let (zone, text) := readZone text
  let (port, rest) ← readPort? (← Ip.char? ']' text)
  return (⟨ip, port, zone⟩, rest)

def ofText? (text : String) : Option Endpoint :=
  (Ip.whole? readV4? text.toList).orElse fun _ => Ip.whole? readV6? text.toList

end Endpoint

end Muster
