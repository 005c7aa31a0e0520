/-!
# Numerals

Decimal numbers of bounded size.  A numeral may begin with a plus sign, a signed one also with a
minus sign; leading zeros do not matter, and a value beyond the bound is refused.
-/

namespace Muster.Text.Numeral

def digit? (char : Char) : Option Nat :=
  if '0' ≤ char ∧ char ≤ '9' then some (char.toNat - '0'.toNat) else none

/-- Reads digits onto the value of the digits before them. -/
def digitsFrom? (value : Nat) : List Char → Option Nat
  | [] => some value
  | char :: rest => (digit? char).bind fun digit => digitsFrom? (10 * value + digit) rest

/-- The value of one or more decimal digits. -/
def digits? : List Char → Option Nat
  | [] => none
  | text => digitsFrom? 0 text

/-- A numeral without sign or with a plus sign, whose value is at most `limit`. -/
def natural? (limit : Nat) (text : List Char) : Option Nat :=
  (digits? (match text with | '+' :: rest => rest | _ => text)).filter (· ≤ limit)

/-- A numeral with an optional sign, whose value is below `bound` and not below its negative. -/
def integer? (bound : Nat) : List Char → Option Int
  | '-' :: rest => ((digits? rest).filter (· ≤ bound)).map fun value => -(value : Int)
  | text => (natural? (bound - 1) text).map fun value => (value : Int)

/-- A numeral that fits 32 bits. -/
def uint32? (text : List Char) : Option UInt32 :=
  (natural? 0xFFFFFFFF text).map Nat.toUInt32

/-- A numeral that fits 16 bits. -/
def uint16? (text : List Char) : Option UInt16 :=
  (natural? 0xFFFF text).map Nat.toUInt16

/-- A signed numeral that fits 32 bits. -/
def int32? (text : List Char) : Option Int32 :=
  (integer? 0x80000000 text).map Int32.ofInt

end Muster.Text.Numeral
