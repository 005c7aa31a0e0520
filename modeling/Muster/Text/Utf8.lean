/-!
# UTF-8

Characters as byte sequences.  A byte string is read character by character with `scan`, which
either finds a well-formed character or the longest ill-formed piece that could still have begun
one.  The strict reader refuses such a piece and says where it is, the lenient reader puts U+FFFD in
its place.
-/

namespace Muster.Text.Utf8

def encodeChar (char : Char) : List UInt8 :=
  let code := char.toNat
  if code < 0x80 then [code.toUInt8]
  else if code < 0x800 then [(0xC0 + code / 0x40).toUInt8, (0x80 + code % 0x40).toUInt8]
  else if code < 0x10000 then
    [(0xE0 + code / 0x1000).toUInt8, (0x80 + code / 0x40 % 0x40).toUInt8,
      (0x80 + code % 0x40).toUInt8]
  else
    [(0xF0 + code / 0x40000).toUInt8, (0x80 + code / 0x1000 % 0x40).toUInt8,
      (0x80 + code / 0x40 % 0x40).toUInt8, (0x80 + code % 0x40).toUInt8]

def encode (text : List Char) : List UInt8 :=
  text.flatMap encodeChar

/-- The character that stands in for an ill-formed piece. -/
def replacement : Char := '\uFFFD'

/-- A byte that may stand second and later in a character. -/
def isContinuation (byte : UInt8) : Bool :=
  0x80 ≤ byte && byte ≤ 0xBF

/-- The number of bytes a character has that begins with this byte. -/
def width (lead : UInt8) : Nat :=
  if lead < 0x80 then 1
  else if 0xC2 ≤ lead && lead ≤ 0xDF then 2
  else if 0xE0 ≤ lead && lead ≤ 0xEF then 3
  else if 0xF0 ≤ lead && lead ≤ 0xF4 then 4
  else 0

/-- The bytes that may stand second after this lead byte.  They exclude the overlong forms, the
surrogates and everything above U+10FFFF. -/
def isSecond (lead second : UInt8) : Bool :=
  if lead = 0xE0 then 0xA0 ≤ second && second ≤ 0xBF
  else if lead = 0xED then 0x80 ≤ second && second ≤ 0x9F
  else if lead = 0xF0 then 0x90 ≤ second && second ≤ 0xBF
  else if lead = 0xF4 then 0x80 ≤ second && second ≤ 0x8F
  else isContinuation second

/-- The six payload bits of a continuation byte. -/
def payload (byte : UInt8) : Nat :=
  byte.toNat % 0x40

/-- Reads one character that begins with `lead`: the character, or none for an ill-formed piece,
and the number of bytes it takes from `rest`. -/
def scan (lead : UInt8) (rest : List UInt8) : Option Char × Nat :=
  match width lead, rest with
  | 1, _ => (some (Char.ofNat lead.toNat), 0)
  | 2, second :: _ =>
    if isSecond lead second then
      (some (Char.ofNat (lead.toNat % 0x20 * 0x40 + payload second)), 1)
    else (none, 0)
  | 3, second :: third :: _ =>
    if !isSecond lead second then (none, 0)
    else if !isContinuation third then (none, 1)
    else
      (some (Char.ofNat
        (lead.toNat % 0x10 * 0x1000 + payload second * 0x40 + payload third)), 2)
  | 3, [second] => (none, if isSecond lead second then 1 else 0)
  | 4, second :: third :: fourth :: _ =>
    if !isSecond lead second then (none, 0)
    else if !isContinuation third then (none, 1)
    else if !isContinuation fourth then (none, 2)
    else
      (some (Char.ofNat
        (lead.toNat % 0x08 * 0x40000 + payload second * 0x1000 + payload third * 0x40 +
          payload fourth)), 3)
  | 4, [second, third] =>
    (none, if !isSecond lead second then 0 else if !isContinuation third then 1 else 2)
  | 4, [second] => (none, if isSecond lead second then 1 else 0)
  | _, _ => (none, 0)

/-- Reads a byte string, with U+FFFD for each ill-formed piece. -/
def decodeLossy : List UInt8 → List Char
  | [] => []
  | lead :: rest =>
    (scan lead rest).1.getD replacement :: decodeLossy (rest.drop (scan lead rest).2)
termination_by bytes => bytes.length
decreasing_by simp only [List.length_drop, List.length_cons]; omega

/-- The first ill-formed piece of a byte string. -/
structure Fault where
  /-- How many bytes stand before it. -/
  index : Nat
  /-- Its length; none where the byte string ends inside a character. -/
  length : Option Nat
  deriving DecidableEq, Repr

def Fault.message (fault : Fault) : String :=
  match fault.length with
  | some length =>
    "invalid utf-8 sequence of " ++ toString length ++ " bytes from index " ++
      toString fault.index
  | none => "incomplete utf-8 byte sequence from index " ++ toString fault.index

/-- The fault of the ill-formed piece at `index` that begins with `lead`. -/
def faultAt (index : Nat) (lead : UInt8) (rest : List UInt8) : Fault :=
  let length := 1 + (scan lead rest).2
  if length < width lead ∧ rest.length < length then ⟨index, none⟩ else ⟨index, some length⟩

/-- Reads a byte string that is well-formed throughout and has `index` bytes before it. -/
def decodeFrom (index : Nat) : List UInt8 → Except Fault (List Char)
  | [] => .ok []
  | lead :: rest =>
    match (scan lead rest).1 with
    | none => .error (faultAt index lead rest)
    | some char =>
      let taken := (scan lead rest).2
      (decodeFrom (index + 1 + taken) (rest.drop taken)).map (char :: ·)
termination_by bytes => bytes.length
decreasing_by simp only [List.length_drop, List.length_cons]; omega

/-- Reads a byte string that is well-formed throughout. -/
def decode (bytes : List UInt8) : Except Fault (List Char) :=
  decodeFrom 0 bytes

end Muster.Text.Utf8
